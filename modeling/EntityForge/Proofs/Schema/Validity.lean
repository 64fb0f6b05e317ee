import EntityForge.Schema.Record
import EntityForge.Schema.Scalar
import Mathlib.Data.List.Forall2

/-!
# Valid readings

When the combinators of checked readings give a value.  A record is valid exactly if each of its
fields is and if nothing else was in its mapping, whatever issues there would be otherwise.
-/

namespace EntityForge.Schema

variable {α β : Type}

namespace Checked

@[simp] theorem valid_eq_valid_iff {left right : α} :
    (Checked.valid left = .valid right) ↔ left = right :=
  ⟨Checked.valid.inj, congrArg Checked.valid⟩

@[simp] theorem issue_ne_valid {kind : Kind} {value : α} : Checked.issue kind ≠ .valid value := by
  intro impossible
  cases impossible

theorem map_eq_valid_iff {image : α → β} {checked : Checked α} {value : β} :
    image <$> checked = .valid value ↔ ∃ inner, checked = .valid inner ∧ image inner = value := by
  cases checked with
  | valid inner => simp [Functor.map, Checked.map]
  | invalid issues => simp [Functor.map, Checked.map]

theorem seq_eq_valid_iff {function : Checked (α → β)} {argument : Checked α} {value : β} :
    function <*> argument = .valid value ↔
      ∃ image, function = .valid image ∧
        ∃ inner, argument = .valid inner ∧ image inner = value := by
  cases function with
  | valid image =>
      cases argument with
      | valid inner => simp [Seq.seq, Checked.apply]
      | invalid issues => simp [Seq.seq, Checked.apply]
  | invalid issues =>
      cases argument with
      | valid inner => simp [Seq.seq, Checked.apply]
      | invalid more => simp [Seq.seq, Checked.apply]

theorem andThen_eq_valid_iff {checked : Checked α} {next : α → Checked β} {value : β} :
    checked.andThen next = .valid value ↔
      ∃ inner, checked = .valid inner ∧ next inner = .valid value := by
  cases checked with
  | valid inner => simp [Checked.andThen]
  | invalid issues => simp [Checked.andThen]

theorem under_eq_valid_iff {step : Step} {checked : Checked α} {value : α} :
    checked.under step = .valid value ↔ checked = .valid value := by
  cases checked with
  | valid inner => rfl
  | invalid issues => simp [Checked.under]

/-- The items of a list are read one by one, whatever their positions. -/
theorem items_eq_valid_iff {read : Data → Checked α} {start : Nat} {data : List Data}
    {values : List α} :
    items read start data = .valid values ↔
      List.Forall₂ (fun item value => read item = .valid value) data values := by
  induction data generalizing start values with
  | nil =>
      rw [items, valid_eq_valid_iff, List.forall₂_nil_left_iff]
      exact eq_comm
  | cons item rest ih =>
      rw [items, seq_eq_valid_iff]
      simp only [map_eq_valid_iff, under_eq_valid_iff, ih]
      constructor
      · rintro ⟨_, ⟨first, here, rfl⟩, others, later, rfl⟩
        exact .cons here later
      · intro paired
        cases paired with
        | cons here later => exact ⟨_, ⟨_, here, rfl⟩, _, later, rfl⟩

end Checked

open Checked

theorem readEntries_eq_valid_iff {modelName : Text} {data : Data}
    {entries : List (Data × Data)} :
    readEntries modelName data = .valid entries ↔ data = .map entries := by
  cases data with
  | map given => simp [readEntries]
  | _ => simp [readEntries]

/-- A record is read from nothing but a mapping. -/
theorem exists_eq_map_of_readEntries {modelName : Text} {data : Data}
    {next : List (Data × Data) → Checked α} {value : α}
    (run : (readEntries modelName data).andThen next = .valid value) :
    ∃ entries, data = .map entries := by
  obtain ⟨entries, found, _⟩ := andThen_eq_valid_iff.mp run
  exact ⟨entries, readEntries_eq_valid_iff.mp found⟩

theorem readList_eq_valid_iff {read : Data → Checked α} {data : Data} {values : List α} :
    readList read data = .valid values ↔
      ∃ items, (data = .list items ∨ data = .tuple items ∨ data = .set items) ∧
        List.Forall₂ (fun item value => read item = .valid value) items values := by
  cases data with
  | list items | tuple items | set items => simp [readList, items_eq_valid_iff]
  | _ => simp [readList]

theorem required_eq_valid_iff {name : Text} {read : Data → Checked α}
    {entries : List (Data × Data)} {value : α} :
    required name read entries = .valid value ↔
      ∃ data, Data.lookup? name entries = some data ∧ read data = .valid value := by
  rw [required]
  cases Data.lookup? name entries with
  | some data => simp [under_eq_valid_iff]
  | none => simp [under_eq_valid_iff]

/-- A field with a default is read where it is there. -/
theorem defaulted_eq_valid_iff {name : Text} {default : α} {read : Data → Checked α}
    {entries : List (Data × Data)} {value : α} :
    defaulted name default read entries = .valid value ↔
      (Data.lookup? name entries = none ∧ value = default) ∨
        ∃ data, Data.lookup? name entries = some data ∧ read data = .valid value := by
  rw [defaulted, defaultedAs, presentName?]
  cases found : Data.lookup? name entries with
  | some data => simp [found, required_eq_valid_iff]
  | none => simp [found, eq_comm]

/-- A field depends on nothing but the entry of its name. -/
theorem required_congr {name : Text} {read : Data → Checked α}
    {left right : List (Data × Data)}
    (same : Data.lookup? name left = Data.lookup? name right) :
    required name read left = required name read right := by
  rw [required, required, same]

theorem defaulted_congr {name : Text} {default : α} {read : Data → Checked α}
    {left right : List (Data × Data)}
    (same : Data.lookup? name left = Data.lookup? name right) :
    defaulted name default read left = defaulted name default read right := by
  rw [defaulted, defaultedAs, defaulted, defaultedAs, presentName?, presentName?,
    List.find?_singleton, List.find?_singleton, same]
  cases Data.lookup? name right with
  | some data => exact required_congr same
  | none => rfl

theorem withNothingElse_eq_valid_iff {record : Checked α} {fields : List (List Text)}
    {entries : List (Data × Data)} {value : α} :
    withNothingElse record fields entries = .valid value ↔
      record = .valid value ∧ closed fields entries = .valid () := by
  rw [withNothingElse, seq_eq_valid_iff]
  simp only [map_eq_valid_iff]
  constructor
  · rintro ⟨_, ⟨inner, read, rfl⟩, _, nothing, rfl⟩
    exact ⟨read, nothing⟩
  · rintro ⟨read, nothing⟩
    exact ⟨_, ⟨value, read, rfl⟩, (), nothing, rfl⟩

/-- Only the key of a field is no issue. -/
theorem extraIssue?_eq_none_iff {names : List Text} {entry : Data × Data} :
    extraIssue? names entry = none ↔ ∃ name ∈ names, entry.1 = .text name := by
  rw [extraIssue?]
  cases entry.1 with
  | text key =>
      by_cases known : key ∈ names
      · simp [known]
      · have some : (if key.isEncodable then some (Issue.mk .extraForbidden [.key key])
            else some ⟨.stringUnicode, []⟩) ≠ none := by
          split <;> exact Option.some_ne_none _
        simp [known, some]
  | _ => simp

theorem closed_eq_valid_iff {fields : List (List Text)} {entries : List (Data × Data)} :
    closed fields entries = .valid () ↔
      ∀ entry ∈ entries, ∃ name ∈ fields.filterMap (presentName? · entries),
        entry.1 = .text name := by
  simp only [← extraIssue?_eq_none_iff, ← List.filterMap_eq_nil_iff]
  rw [closed]
  split
  next none => simpa using none
  next some => simpa using some

end EntityForge.Schema
