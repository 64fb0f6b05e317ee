import EntityForge.Data.Basic

/-!
# Entries of mappings

Looking up, assigning and dropping the entry of a text key.
-/

namespace EntityForge.Data

/-- Whether a key is a given text. -/
def isText (name : Text) : Data → Bool
  | .text key => key == name
  | _ => false

theorem isText_iff {name : Text} {key : Data} : key.isText name = true ↔ key = .text name := by
  cases key with
  | text word => simp [isText]
  | _ => simp [isText]

/-- The entries without those of a text key. -/
def without (name : Text) (entries : List (Data × Data)) : List (Data × Data) :=
  entries.filter fun entry => !entry.1.isText name

theorem lookup?_cons (name : Text) (key value : Data) (rest : List (Data × Data)) :
    lookup? name ((key, value) :: rest) =
      if key.isText name then some value else lookup? name rest := by
  cases key with
  | text word => simp [lookup?, isText]
  | _ => simp [lookup?, isText]

theorem isSome_lookup?_iff {name : Text} {entries : List (Data × Data)} :
    (lookup? name entries).isSome = true ↔ ∃ entry ∈ entries, entry.1 = .text name := by
  induction entries with
  | nil => simp [lookup?]
  | cons entry rest ih =>
      rw [lookup?_cons]
      split
      next here => simpa using Or.inl (isText_iff.mp here)
      next elsewhere =>
        have other : entry.1 ≠ .text name := fun same => elsewhere (isText_iff.mpr same)
        simp [ih, other]

theorem assign_cons (name : Text) (value key old : Data) (rest : List (Data × Data)) :
    assign name value ((key, old) :: rest) =
      if key.isText name then (key, value) :: rest else (key, old) :: assign name value rest := by
  cases key with
  | text word => simp [assign, isText]
  | _ => simp [assign, isText]

@[simp] theorem lookup?_assign_self (name : Text) (value : Data)
    (entries : List (Data × Data)) : lookup? name (assign name value entries) = some value := by
  induction entries with
  | nil => simp [assign, lookup?]
  | cons entry rest ih =>
      rw [assign_cons]
      split
      next here => rw [lookup?_cons, if_pos here]
      next elsewhere => rw [lookup?_cons, if_neg elsewhere, ih]

theorem lookup?_assign_of_ne {name other : Text} (different : other ≠ name) (value : Data)
    (entries : List (Data × Data)) :
    lookup? other (assign name value entries) = lookup? other entries := by
  induction entries with
  | nil => simp [assign, lookup?, different.symm]
  | cons entry rest ih =>
      rw [assign_cons]
      split
      next here =>
        have apart : ¬entry.1.isText other = true := by
          rw [isText_iff.mp here, isText_iff]
          exact fun same => different (Data.text.inj same).symm
        rw [lookup?_cons, lookup?_cons, if_neg apart, if_neg apart]
      next elsewhere => rw [lookup?_cons, lookup?_cons, ih]

/-- An assignment adds no key but its own. -/
theorem forall_key_assign_iff {name : Text} {value : Data} {entries : List (Data × Data)}
    {property : Data → Prop} (own : property (.text name)) :
    (∀ entry ∈ assign name value entries, property entry.1) ↔
      ∀ entry ∈ entries, property entry.1 := by
  induction entries with
  | nil => simpa [assign] using own
  | cons entry rest ih =>
      rw [assign_cons]
      split
      next => simp
      next => simp only [List.forall_mem_cons, ih]

theorem lookup?_without_self (name : Text) (entries : List (Data × Data)) :
    lookup? name (without name entries) = none := by
  rw [← Option.not_isSome_iff_eq_none, isSome_lookup?_iff]
  rintro ⟨entry, member, same⟩
  have kept := (List.mem_filter.mp member).2
  rw [isText_iff.mpr same] at kept
  cases kept

theorem lookup?_without_of_ne {name other : Text} (different : other ≠ name)
    (entries : List (Data × Data)) :
    lookup? other (without name entries) = lookup? other entries := by
  induction entries with
  | nil => rfl
  | cons entry rest ih =>
      rw [without] at ih ⊢
      cases here : entry.1.isText name with
      | true =>
          have apart : ¬entry.1.isText other = true := by
            rw [isText_iff.mp here, isText_iff]
            exact fun same => different (Data.text.inj same).symm
          rw [List.filter_cons_of_neg (by simp [here]), ih, lookup?_cons, if_neg apart]
      | false => rw [List.filter_cons_of_pos (by simp [here]), lookup?_cons, lookup?_cons, ih]

theorem forall_key_without_iff {name : Text} {entries : List (Data × Data)}
    {property : Data → Prop} (own : property (.text name)) :
    (∀ entry ∈ without name entries, property entry.1) ↔
      ∀ entry ∈ entries, property entry.1 := by
  constructor
  · intro others entry member
    cases here : entry.1.isText name with
    | true => exact isText_iff.mp here ▸ own
    | false => exact others entry (List.mem_filter.mpr ⟨member, by simp [here]⟩)
  · intro all entry member
    exact all entry (List.mem_filter.mp member).1

/-! ## Proper keys -/

mutual

/-- Whether every mapping in a value has keys that can be looked up. -/
def isProper : Data → Bool
  | .list items | .tuple items | .set items => allProper items
  | .map entries => entriesProper entries
  | _ => true

/-- Whether all values of a list are proper. -/
def allProper : List Data → Bool
  | [] => true
  | item :: rest => item.isProper && allProper rest

/-- Whether all entries of a mapping are proper. -/
def entriesProper : List (Data × Data) → Bool
  | [] => true
  | entry :: rest => entryProper entry && entriesProper rest

/-- Whether the key of an entry can be looked up, and its value is proper. -/
def entryProper : Data × Data → Bool
  | (key, value) => key.isHashable && value.isProper

end

theorem allProper_iff {items : List Data} :
    allProper items = true ↔ ∀ item ∈ items, item.isProper = true := by
  induction items with
  | nil => simp [allProper]
  | cons item rest ih => rw [allProper, Bool.and_eq_true, ih, List.forall_mem_cons]

theorem entriesProper_iff {entries : List (Data × Data)} :
    entriesProper entries = true ↔ ∀ entry ∈ entries, entryProper entry = true := by
  induction entries with
  | nil => simp [entriesProper]
  | cons entry rest ih => rw [entriesProper, Bool.and_eq_true, ih, List.forall_mem_cons]

theorem mem_of_lookup?_eq_some {name : Text} {entries : List (Data × Data)} {value : Data}
    (found : lookup? name entries = some value) : (.text name, value) ∈ entries := by
  induction entries with
  | nil => cases found
  | cons entry rest ih =>
      obtain ⟨key, held⟩ := entry
      rw [lookup?_cons] at found
      split at found
      next here =>
        cases found
        rw [isText_iff.mp here]
        exact List.mem_cons_self
      next => exact List.mem_cons_of_mem _ (ih found)

theorem isProper_of_lookup? {name : Text} {entries : List (Data × Data)} {value : Data}
    (proper : (Data.map entries).isProper = true) (found : lookup? name entries = some value) :
    value.isProper = true := by
  rw [isProper, entriesProper_iff] at proper
  have entry := proper _ (mem_of_lookup?_eq_some found)
  rw [entryProper, Bool.and_eq_true] at entry
  exact entry.2

/-- No key of a proper mapping is a mapping. -/
theorem key_ne_map {entries inner : List (Data × Data)} {value : Data}
    (proper : (Data.map entries).isProper = true) : (.map inner, value) ∉ entries := by
  intro member
  rw [isProper, entriesProper_iff] at proper
  have entry := proper _ member
  rw [entryProper, Bool.and_eq_true] at entry
  cases entry.1

end EntityForge.Data
