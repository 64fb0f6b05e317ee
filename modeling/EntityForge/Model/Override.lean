import EntityForge.Data.Keys
import EntityForge.Model.Reader

/-!
# Overriding options

Settings given elsewhere win over those of a model file.  The options are put into their data
form, the overrides are laid over it, and the result is read again, so that an override is checked
like any other setting.
-/

namespace EntityForge.GeneratorOptions

/-- The entries of options in their data form. -/
def entries (options : GeneratorOptions) : List (Data × Data) :=
  match options.dump with
  | .map entries => entries
  | _ => []

/-- The options with some settings replaced. -/
def override (options : GeneratorOptions) (overrides : List (Data × Data)) :
    Schema.Checked GeneratorOptions :=
  read (.map (Data.putAll options.entries overrides))

end EntityForge.GeneratorOptions
