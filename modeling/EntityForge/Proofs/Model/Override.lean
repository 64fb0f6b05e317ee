import EntityForge.Model.Override
import EntityForge.Proofs.Data.Merging
import EntityForge.Proofs.Model.RoundTrip

/-!
# Overriding is merging

Overrides are read like options whose defaults are the settings that are overridden.  Everything
else follows: an absent field keeps its setting, a present one is checked whatever it replaces, and
two overrides in a row are one with the later values.
-/

namespace EntityForge

open EntityForge.Schema
open EntityForge.Schema.Checked

variable {α β : Type}

/-! ## Verdicts -/

namespace Schema.Checked

/-- A reading without its value: success, or what stood in the way. -/
def verdict : Checked α → Checked Unit :=
  map fun _ => ()

@[simp] theorem verdict_map (image : α → β) (checked : Checked α) :
    (image <$> checked).verdict = checked.verdict := by
  cases checked <;> rfl

/-- The issues of two readings side by side depend on the issues of each. -/
theorem verdict_seq_congr {function other : Checked (α → β)} {argument another : Checked α}
    (same : function.verdict = other.verdict) (alike : argument.verdict = another.verdict) :
    (function <*> argument).verdict = (other <*> another).verdict := by
  cases function <;> cases other <;> cases same <;>
    cases argument <;> cases another <;> cases alike <;> rfl

/-- A default is no issue. -/
theorem verdict_defaulted (name : Text) (default other : α) (read : Data → Checked α)
    (entries : List (Data × Data)) :
    (defaulted name default read entries).verdict =
      (defaulted name other read entries).verdict := by
  rw [defaulted, defaultedAs, defaulted, defaultedAs]
  cases presentName? [name] entries <;> rfl

end Schema.Checked

/-! ## Fields of a merge -/

namespace Schema

theorem presentName?_cons {name : Text} {names : List Text} {entries : List (Data × Data)}
    (present : (Data.lookup? name entries).isSome = true) :
    presentName? (name :: names) entries = some name :=
  List.find?_cons_of_pos present

theorem defaulted_eq (name : Text) (default : α) (read : Data → Checked α)
    (entries : List (Data × Data)) :
    defaulted name default read entries =
      match Data.lookup? name entries with
      | some value => (read value).under (.key name)
      | none => .valid default := by
  rw [defaulted, defaultedAs, presentName?, List.find?_singleton]
  cases found : Data.lookup? name entries with
  | some value => simp [required, found]
  | none => rfl

/-- A field of a merge is read from the overrides, with the value that was stored as default. -/
theorem defaultedAs_merge {name : Text} {names : List Text} {default old : α}
    {read : Data → Checked α} {merged overrides : List (Data × Data)} {stored : Data}
    (merge : Data.lookup? name merged = (Data.lookup? name overrides).or (some stored))
    (kept : read stored = .valid old) :
    defaultedAs (name :: names) default read merged = defaulted name old read overrides := by
  have present : (Data.lookup? name merged).isSome = true := by
    rw [merge, Option.isSome_or, Option.isSome_some, Bool.or_true]
  rw [defaultedAs, presentName?_cons present, defaulted_eq]
  simp only [required, merge]
  cases Data.lookup? name overrides with
  | some value => rfl
  | none => simp [kept, under]

theorem withNothingElse_eq_self {record : Checked α} {fields : List (List Text)}
    {entries : List (Data × Data)} (nothing : closed fields entries = .valid ()) :
    withNothingElse record fields entries = record := by
  rw [withNothingElse, nothing]
  cases record <;> rfl

end Schema

namespace GeneratorOptions

/-- The names of the fields, without the second spellings. -/
def keys : List Text :=
  ["document", "file_scoped_namespace", "nullable", "indent_size", "file_extension"]

/-- The size of an indentation within its bounds. -/
def size (options : GeneratorOptions) : { size : Nat // 1 ≤ size ∧ size ≤ 8 } :=
  ⟨options.indentSize, options.indentSize_range⟩

/-- The file extension with its dot. -/
def extension (options : GeneratorOptions) :
    { text : Text // text.toList.head? = some (.scalar '.') ∧ text.isEncodable = true } :=
  ⟨options.fileExtension, options.fileExtension_dotted, options.fileExtension_encodable⟩

/-- Options read from overrides, with the settings that they override as defaults. -/
def readOver (options : GeneratorOptions) (overrides : List (Data × Data)) :
    Checked GeneratorOptions :=
  ofChecked
    <$> defaulted "document" options.document readBool overrides
    <*> defaulted "file_scoped_namespace" options.fileScopedNamespace readBool overrides
    <*> defaulted "nullable" options.nullable readBool overrides
    <*> defaulted "indent_size" options.size readIndentSize overrides
    <*> defaulted "file_extension" options.extension readExtension overrides

variable {options result : GeneratorOptions} {overrides : List (Data × Data)}

theorem isKeyed_entries (options : GeneratorOptions) : Data.IsKeyed keys options.entries :=
  ⟨by simp [entries, dump, Data.object, keys], by simp [entries, dump, Data.object]⟩

/-- Entries under names of fields are all that options are read from, if none is missing. -/
theorem closed_of_isKeyed {entries : List (Data × Data)} (keyed : Data.IsKeyed keys entries)
    (complete : ∀ name ∈ keys, (Data.lookup? name entries).isSome = true) :
    closed fieldNames entries = .valid () := by
  have spelled : ∀ name ∈ keys, ∃ names ∈ fieldNames, names.head? = some name := by decide
  refine closed_eq_valid_iff.mpr fun entry member => ?_
  obtain ⟨name, listed, same⟩ := keyed.named entry member
  obtain ⟨names, among, first⟩ := spelled name listed
  obtain ⟨others, rfl⟩ := List.head?_eq_some_iff.mp first
  exact ⟨name, List.mem_filterMap.mpr ⟨_, among, presentName?_cons (complete name listed)⟩, same⟩

/-- Laying overrides over options is reading the overrides. -/
theorem override_eq_readOver (keyed : Data.IsKeyed keys overrides) :
    options.override overrides = options.readOver overrides := by
  let merged := Data.putAll options.entries overrides
  have merge {name : Text} {stored : Data}
      (found : Data.lookup? name options.entries = some stored) :
      Data.lookup? name merged = (Data.lookup? name overrides).or (some stored) := by
    rw [keyed.lookup?_putAll, found]
  have complete : ∀ name ∈ keys, (Data.lookup? name merged).isSome = true := by
    intro name listed
    have stored : ∀ name ∈ keys, (Data.lookup? name options.entries).isSome = true := by
      simp only [keys, List.forall_mem_cons]
      exact ⟨rfl, rfl, rfl, rfl, rfl, nofun⟩
    rw [keyed.lookup?_putAll, Option.isSome_or, stored name listed, Bool.or_true]
  have document : defaultedAs ["document", "Document"] false readBool merged =
      defaulted "document" options.document readBool overrides :=
    defaultedAs_merge (merge rfl) rfl
  have fileScoped : defaultedAs ["file_scoped_namespace", "FileScopedNamespace"] false readBool
      merged = defaulted "file_scoped_namespace" options.fileScopedNamespace readBool overrides :=
    defaultedAs_merge (merge rfl) rfl
  have nullable : defaultedAs ["nullable", "Nullable"] false readBool merged =
      defaulted "nullable" options.nullable readBool overrides :=
    defaultedAs_merge (merge rfl) rfl
  have size : defaulted "indent_size" ⟨4, by decide⟩ readIndentSize merged =
      defaulted "indent_size" options.size readIndentSize overrides :=
    defaultedAs_merge (merge rfl) (dif_pos options.indentSize_range)
  have extension : defaulted "file_extension" ⟨".cs", by decide⟩ readExtension merged =
      defaulted "file_extension" options.extension readExtension overrides :=
    defaultedAs_merge (merge rfl) (readExtension_fileExtension options)
  have closes := closed_of_isKeyed (options.isKeyed_entries.putAll keyed) complete
  rw [override, GeneratorOptions.read, readEntries, andThen, withNothingElse_eq_self closes,
    document, fileScoped, nullable, size, extension]
  rfl

/-! ## The laws of a merge -/

/-- Whether a setting becomes another one: it is read from its override, or kept without one. -/
def Settles (read : Data → Checked α) (override? : Option Data) (old new : α) : Prop :=
  match override? with
  | some value => read value = .valid new
  | none => new = old

theorem defaulted_eq_valid_iff_settles {name : Text} {read : Data → Checked α} {old new : α} :
    defaulted name old read overrides = .valid new ↔
      Settles read (Data.lookup? name overrides) old new := by
  rw [defaulted_eq]
  cases Data.lookup? name overrides with
  | some value => exact under_eq_valid_iff
  | none => exact valid_eq_valid_iff.trans eq_comm

/-- Of two overrides the later one settles, if there is one. -/
theorem Settles.trans {read : Data → Checked α} {first? second? : Option Data}
    {old middle new : α} (first : Settles read first? old middle)
    (second : Settles read second? middle new) : Settles read (second?.or first?) old new := by
  cases second? with
  | some value => exact second
  | none =>
      cases second
      exact first

/-- Options with overrides laid over them: every field is settled by its own override. -/
structure Overlays (options : GeneratorOptions) (overrides : List (Data × Data))
    (result : GeneratorOptions) : Prop where
  document : Settles readBool (Data.lookup? "document" overrides) options.document result.document
  fileScopedNamespace : Settles readBool (Data.lookup? "file_scoped_namespace" overrides)
    options.fileScopedNamespace result.fileScopedNamespace
  nullable : Settles readBool (Data.lookup? "nullable" overrides) options.nullable result.nullable
  indentSize : Settles readIndentSize (Data.lookup? "indent_size" overrides) options.size
    result.size
  fileExtension : Settles readExtension (Data.lookup? "file_extension" overrides)
    options.extension result.extension

theorem override_eq_valid_iff (keyed : Data.IsKeyed keys overrides) :
    options.override overrides = .valid result ↔ options.Overlays overrides result := by
  rw [override_eq_readOver keyed, readOver]
  simp only [seq_eq_valid_iff, map_eq_valid_iff, defaulted_eq_valid_iff_settles]
  constructor
  · rintro ⟨_, ⟨_, ⟨_, ⟨_, ⟨_, document, rfl⟩, _, fileScoped, rfl⟩, _, nullable, rfl⟩,
      _, size, rfl⟩, _, extension, rfl⟩
    exact ⟨document, fileScoped, nullable, size, extension⟩
  · rintro ⟨document, fileScoped, nullable, size, extension⟩
    exact ⟨_, ⟨_, ⟨_, ⟨_, ⟨_, document, rfl⟩, _, fileScoped, rfl⟩, _, nullable, rfl⟩,
      _, size, rfl⟩, _, extension, rfl⟩

theorem override_nil (options : GeneratorOptions) : options.override [] = .valid options :=
  (override_eq_valid_iff .nil).mpr ⟨rfl, rfl, rfl, rfl, rfl⟩

/-- What is wrong with overrides does not depend on what they override. -/
theorem verdict_override (keyed : Data.IsKeyed keys overrides) (options other : GeneratorOptions) :
    (options.override overrides).verdict = (other.override overrides).verdict := by
  rw [override_eq_readOver keyed, override_eq_readOver keyed, readOver, readOver]
  refine verdict_seq_congr ?_ (verdict_defaulted ..)
  refine verdict_seq_congr ?_ (verdict_defaulted ..)
  refine verdict_seq_congr ?_ (verdict_defaulted ..)
  refine verdict_seq_congr ?_ (verdict_defaulted ..)
  rw [verdict_map, verdict_map]
  exact verdict_defaulted ..

theorem Overlays.trans {middle : GeneratorOptions} {first second : List (Data × Data)}
    (keyed : Data.IsKeyed keys second) (before : options.Overlays first middle)
    (after : middle.Overlays second result) :
    options.Overlays (Data.putAll first second) result := by
  constructor <;> rw [keyed.lookup?_putAll]
  · exact before.document.trans after.document
  · exact before.fileScopedNamespace.trans after.fileScopedNamespace
  · exact before.nullable.trans after.nullable
  · exact before.indentSize.trans after.indentSize
  · exact before.fileExtension.trans after.fileExtension

/-- Two overrides in a row are one, in which the later values win. -/
theorem override_putAll {middle : GeneratorOptions} {first second : List (Data × Data)}
    (keyed : Data.IsKeyed keys first) (rekeyed : Data.IsKeyed keys second)
    (before : options.override first = .valid middle)
    (after : middle.override second = .valid result) :
    options.override (Data.putAll first second) = .valid result := by
  rw [override_eq_valid_iff keyed] at before
  rw [override_eq_valid_iff rekeyed] at after
  exact (override_eq_valid_iff (keyed.putAll rekeyed)).mpr (before.trans rekeyed after)

end GeneratorOptions

end EntityForge
