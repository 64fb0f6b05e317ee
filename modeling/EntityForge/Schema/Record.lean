import EntityForge.Schema.Checked

/-!
# Reading records

Fields of a record are read from the entries of a mapping.  Entries that belong to no field are
refused, so that a misspelt field is never ignored.
-/

namespace EntityForge.Schema

/-- The entries of a mapping that is read as a record of a given name. -/
def readEntries (modelName : Text) : Data → Checked (List (Data × Data))
  | .map entries => .valid entries
  | _ => .issue (.modelType modelName)

/-- Reads a field that must be there. -/
def required {α : Type} (name : Text) (read : Data → Checked α)
    (entries : List (Data × Data)) : Checked α :=
  match Data.lookup? name entries with
  | some value => (read value).under (.key name)
  | none => (Checked.issue .missing).under (.key name)

/-- The first of several names under which there is an entry. -/
def presentName? (names : List Text) (entries : List (Data × Data)) : Option Text :=
  names.find? fun name => (Data.lookup? name entries).isSome

/-- Reads a field that has a default and several names, of which the first that is present
counts. -/
def defaultedAs {α : Type} (names : List Text) (default : α) (read : Data → Checked α)
    (entries : List (Data × Data)) : Checked α :=
  match presentName? names entries with
  | some name => required name read entries
  | none => .valid default

/-- Reads a field that has a default. -/
def defaulted {α : Type} (name : Text) (default : α) (read : Data → Checked α)
    (entries : List (Data × Data)) : Checked α :=
  defaultedAs [name] default read entries

/-- The issue with an entry of a record, if any: every key must be a name that was read. -/
def extraIssue? (names : List Text) (entry : Data × Data) : Option Issue :=
  match entry.1 with
  | .text key =>
      if names.contains key then none
      else if key.isEncodable then some ⟨.extraForbidden, [.key key]⟩
      else some ⟨.stringUnicode, []⟩
  | _ => some ⟨.invalidKey, []⟩

/-- Refuses entries that belong to no field.  Of the names of one field only the first that is
present belongs to it. -/
def closed (fields : List (List Text)) (entries : List (Data × Data)) : Checked Unit :=
  let names := fields.filterMap fun names => presentName? names entries
  match entries.filterMap (extraIssue? names) with
  | [] => .valid ()
  | issues => .invalid issues

/-- A checked record that is valid only if nothing else was in its mapping. -/
def withNothingElse {α : Type} (record : Checked α) (fields : List (List Text))
    (entries : List (Data × Data)) : Checked α :=
  (fun value (_ : Unit) => value) <$> record <*> closed fields entries

end EntityForge.Schema
