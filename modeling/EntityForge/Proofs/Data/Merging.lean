import EntityForge.Data.Keys
import EntityForge.Proofs.Data.Entries
import Mathlib.Data.List.Nodup

/-!
# Merging mappings

Mappings whose keys are distinct texts, and what putting one into another leaves under a key: the
value of the second mapping where there is one, else that of the first.
-/

namespace EntityForge.Data

/-! ## One entry -/

theorem sameKey_text (key : Data) (name : Text) : key.sameKey (.text name) = key.isText name := by
  cases key <;> rfl

/-- Putting a value under a text is an assignment. -/
theorem put_text (name : Text) (value : Data) (entries : List (Data × Data)) :
    put (.text name) value entries = assign name value entries := by
  induction entries with
  | nil => rfl
  | cons entry rest ih => rw [put, assign_cons, sameKey_text, ih]

theorem nodup_assign {name : Text} {value : Data} {entries : List (Data × Data)}
    (distinct : (entries.map Prod.fst).Nodup) :
    ((assign name value entries).map Prod.fst).Nodup := by
  induction entries with
  | nil => simp [assign]
  | cons entry rest ih =>
      obtain ⟨fresh, others⟩ := List.nodup_cons.mp distinct
      rw [assign_cons]
      split
      next => exact distinct
      next elsewhere =>
        refine List.nodup_cons.mpr ⟨?_, ih others⟩
        have apart : ∀ known ∈ assign name value rest, known.1 ≠ entry.1 := by
          have own : Data.text name ≠ entry.1 := fun same => elsewhere (isText_iff.mpr same.symm)
          refine (@forall_key_assign_iff name value rest (· ≠ entry.1) own).mpr ?_
          exact fun known member same => fresh (List.mem_map.mpr ⟨known, member, same⟩)
        intro member
        obtain ⟨known, listed, same⟩ := List.mem_map.mp member
        exact apart known listed same

/-! ## All entries -/

/-- A mapping from some names: its keys are texts among the names, and no two are the same. -/
structure IsKeyed (names : List Text) (entries : List (Data × Data)) : Prop where
  named : ∀ entry ∈ entries, ∃ name ∈ names, entry.1 = .text name
  distinct : (entries.map Prod.fst).Nodup

theorem putAll_cons (entries : List (Data × Data)) (name : Text) (value : Data)
    (rest : List (Data × Data)) :
    putAll entries ((.text name, value) :: rest) = putAll (assign name value entries) rest := by
  rw [putAll, List.foldl_cons, put_text, putAll]

namespace IsKeyed

variable {names : List Text} {entries pairs : List (Data × Data)}

theorem nil : IsKeyed names [] :=
  ⟨nofun, List.nodup_nil⟩

theorem cons_iff {key value : Data} :
    IsKeyed names ((key, value) :: pairs) ↔
      (∃ name ∈ names, key = .text name) ∧ (∀ pair ∈ pairs, pair.1 ≠ key) ∧
        IsKeyed names pairs := by
  constructor
  · intro keyed
    obtain ⟨here, others⟩ := List.forall_mem_cons.mp keyed.named
    obtain ⟨fresh, distinct⟩ := List.nodup_cons.mp keyed.distinct
    exact ⟨here, fun pair member same => fresh (List.mem_map.mpr ⟨pair, member, same⟩), others,
      distinct⟩
  · rintro ⟨here, fresh, keyed⟩
    refine ⟨List.forall_mem_cons.mpr ⟨here, keyed.named⟩, List.nodup_cons.mpr ⟨?_, keyed.distinct⟩⟩
    intro member
    obtain ⟨pair, listed, same⟩ := List.mem_map.mp member
    exact fresh pair listed same

theorem lookup?_eq_none_of_fresh {name : Text} (fresh : ∀ pair ∈ pairs, pair.1 ≠ .text name) :
    lookup? name pairs = none := by
  rw [← Option.not_isSome_iff_eq_none, isSome_lookup?_iff]
  rintro ⟨pair, member, same⟩
  exact fresh pair member same

/-- Under every key there is the value that was put there, else the one that was there before. -/
theorem lookup?_putAll (keyed : IsKeyed names pairs) (name : Text) :
    lookup? name (putAll entries pairs) = (lookup? name pairs).or (lookup? name entries) := by
  induction pairs generalizing entries with
  | nil => rfl
  | cons pair rest ih =>
      obtain ⟨⟨key, _, same⟩, fresh, others⟩ := cons_iff.mp keyed
      obtain ⟨_, value⟩ := pair
      cases same
      rw [putAll_cons, ih others, lookup?_cons]
      by_cases here : key = name
      · subst here
        rw [lookup?_eq_none_of_fresh fresh, lookup?_assign_self, isText_iff.mpr rfl]
        rfl
      · have apart : ¬(Data.text key).isText name = true := by simpa [isText] using here
        rw [if_neg apart, lookup?_assign_of_ne (Ne.symm here)]

/-- A mapping from names put into another is a mapping from names. -/
theorem putAll (first : IsKeyed names entries) (second : IsKeyed names pairs) :
    IsKeyed names (putAll entries pairs) := by
  induction pairs generalizing entries with
  | nil => exact first
  | cons pair rest ih =>
      obtain ⟨⟨key, listed, same⟩, _, others⟩ := cons_iff.mp second
      obtain ⟨_, value⟩ := pair
      cases same
      rw [putAll_cons]
      refine ih ⟨?_, nodup_assign first.distinct⟩ others
      exact (@forall_key_assign_iff key value entries (fun key => ∃ name ∈ names, key = .text name)
        ⟨key, listed, rfl⟩).mpr first.named

end IsKeyed

end EntityForge.Data
