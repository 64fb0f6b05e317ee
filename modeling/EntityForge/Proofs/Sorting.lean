import Mathlib.Data.List.Palindrome
import Mathlib.Data.List.Sort

/-!
# Stable sorts

A stable sort brings the items of a list into the order of their keys and leaves those of one key in
the order in which they were given.  There is only one such list.  It follows that sorting and
selecting can be done in either order, and that the given order is lost in it exactly if no two
items have a key in common.
-/

namespace EntityForge

variable {α β : Type} [LinearOrder β] {key : α → β}

/-- The items of a list that have a given key. -/
def keyed (key : α → β) (value : β) (items : List α) : List α :=
  items.filter fun item => decide (key item = value)

/-- Whether a list is the stable sort of another one: it has the same items, they stand in the order
of their keys, and those of one key stand as they were given. -/
structure IsStableSort (key : α → β) (given listed : List α) : Prop where
  perm : listed.Perm given
  ordered : listed.Pairwise fun left right => key left ≤ key right
  stable : ∀ value, keyed key value listed = keyed key value given

theorem keyed_cons_self (item : α) (rest : List α) :
    keyed key (key item) (item :: rest) = item :: keyed key (key item) rest :=
  List.filter_cons_of_pos (by simp)

theorem keyed_cons_of_ne {item : α} {value : β} (different : key item ≠ value) (rest : List α) :
    keyed key value (item :: rest) = keyed key value rest :=
  List.filter_cons_of_neg (by simpa using different)

/-- An item is found under its key in every list that has the same items of each key. -/
theorem mem_of_keyed_eq {left right : List α}
    (same : ∀ value, keyed key value left = keyed key value right) {item : α}
    (member : item ∈ left) : item ∈ right := by
  have found : item ∈ keyed key (key item) left := by
    simp [keyed, member]
  rw [same] at found
  exact List.mem_of_mem_filter found

/-- The first item of an ordered list has the least key. -/
theorem le_of_mem_ordered {first : α} {rest : List α}
    (ordered : (first :: rest).Pairwise fun left right => key left ≤ key right) {item : α}
    (member : item ∈ first :: rest) : key first ≤ key item := by
  cases List.mem_cons.mp member with
  | inl same => rw [same]
  | inr later => exact List.rel_of_pairwise_cons ordered later

/-- Ordered lists are equal if they have the same items of each key in the same order. -/
theorem eq_of_keyed_eq {left right : List α}
    (leftOrdered : left.Pairwise fun left right => key left ≤ key right)
    (rightOrdered : right.Pairwise fun left right => key left ≤ key right)
    (same : ∀ value, keyed key value left = keyed key value right) : left = right := by
  induction left generalizing right with
  | nil =>
      apply Eq.symm
      rw [List.eq_nil_iff_forall_not_mem]
      intro item member
      exact absurd (mem_of_keyed_eq (fun value => (same value).symm) member) List.not_mem_nil
  | cons first rest ih =>
      cases right with
      | nil => exact absurd (mem_of_keyed_eq same List.mem_cons_self) List.not_mem_nil
      | cons other others =>
          have forward := le_of_mem_ordered leftOrdered
            (mem_of_keyed_eq (fun value => (same value).symm) List.mem_cons_self)
          have backward := le_of_mem_ordered rightOrdered
            (mem_of_keyed_eq same List.mem_cons_self)
          have alike : key first = key other := le_antisymm forward backward
          have here := same (key first)
          rw [keyed_cons_self, alike, keyed_cons_self, List.cons.injEq] at here
          have later : ∀ value, keyed key value rest = keyed key value others := by
            intro value
            by_cases isFirst : key other = value
            · rw [← isFirst]
              exact here.2
            · have everywhere := same value
              rwa [keyed_cons_of_ne (alike ▸ isFirst), keyed_cons_of_ne isFirst] at everywhere
          rw [here.1, ih leftOrdered.of_cons rightOrdered.of_cons later]

namespace IsStableSort

/-- Lists have one stable sort exactly if each key has the same items in both, in the same order. -/
theorem eq_iff {given listed others otherListed : List α} (sorted : IsStableSort key given listed)
    (otherSorted : IsStableSort key others otherListed) :
    listed = otherListed ↔ ∀ value, keyed key value given = keyed key value others := by
  constructor
  · rintro rfl value
    rw [← sorted.stable, otherSorted.stable]
  · intro same
    apply eq_of_keyed_eq sorted.ordered otherSorted.ordered
    intro value
    rw [sorted.stable, otherSorted.stable, same]

/-- There is one stable sort of a list at most. -/
theorem unique {given left right : List α} (sorted : IsStableSort key given left)
    (other : IsStableSort key given right) : left = right :=
  (sorted.eq_iff other).mpr fun _ => rfl

/-- Selecting from a stable sort gives the stable sort of what is selected. -/
theorem filter {given listed : List α} (sorted : IsStableSort key given listed)
    (keep : α → Bool) : IsStableSort key (given.filter keep) (listed.filter keep) where
  perm := sorted.perm.filter keep
  ordered := sorted.ordered.filter keep
  stable := by
    intro value
    have stable := congrArg (List.filter keep) (sorted.stable value)
    simpa only [keyed, List.filter_filter, Bool.and_comm] using stable

end IsStableSort

/-- Distinct items read alike in both directions only if there is one at most. -/
theorem eq_of_reverse_eq {items : List α} (distinct : items.Nodup) (same : items.reverse = items)
    {left right : α} (inLeft : left ∈ items) (inRight : right ∈ items) : left = right := by
  cases List.Palindrome.of_reverse_eq same with
  | nil => cases inLeft
  | singleton item =>
      exact (List.mem_singleton.mp inLeft).trans (List.mem_singleton.mp inRight).symm
  | cons_concat item inner =>
      obtain ⟨once, _⟩ := List.nodup_cons.mp distinct
      exact absurd (List.mem_append_right _ (List.mem_singleton_self item)) once

/-- The items of each key stand in one order, however distinct items are given, exactly if no two of
them share a key. -/
theorem keyed_perm_iff {items : List α} (distinct : items.Nodup) :
    (∀ others, others.Perm items →
        ∀ value, keyed key value others = keyed key value items) ↔
      ∀ left ∈ items, ∀ right ∈ items, key left = key right → left = right := by
  constructor
  · intro same left inLeft right inRight alike
    have mirrored := same items.reverse (List.reverse_perm items) (key left)
    rw [keyed, List.filter_reverse] at mirrored
    have leftKeyed : left ∈ keyed key (key left) items := by simp [keyed, inLeft]
    have rightKeyed : right ∈ keyed key (key left) items := by simp [keyed, inRight, alike]
    exact eq_of_reverse_eq (distinct.filter _) mirrored leftKeyed rightKeyed
  · intro apart others reordered value
    have unordered (list : List α) : list.Pairwise fun _ _ => True :=
      List.pairwise_of_forall fun _ _ => trivial
    refine List.Perm.eq_of_pairwise ?_ (unordered _) (unordered _) (reordered.filter _)
    intro left right inLeft inRight _ _
    obtain ⟨leftListed, leftKey⟩ := List.mem_filter.mp inLeft
    obtain ⟨rightListed, rightKey⟩ := List.mem_filter.mp inRight
    rw [decide_eq_true_eq] at leftKey rightKey
    exact apart left (reordered.subset leftListed) right rightListed
      (leftKey.trans rightKey.symm)

/-- Merging by a relation that compares keys sorts stably. -/
theorem isStableSort_mergeSort {before : α → α → Bool}
    (compares : ∀ left right, before left right = true ↔ key left ≤ key right) (items : List α) :
    IsStableSort key items (items.mergeSort before) := by
  have transitive : ∀ first second third, before first second = true →
      before second third = true → before first third = true := by
    intro first second third lower upper
    rw [compares] at lower upper ⊢
    exact lower.trans upper
  have total : ∀ left right, (before left right || before right left) = true := by
    intro left right
    rw [Bool.or_eq_true, compares, compares]
    exact le_total _ _
  constructor
  · exact List.mergeSort_perm items before
  · apply (List.pairwise_mergeSort transitive total items).imp
    intro left right ordered
    exact (compares left right).mp ordered
  · intro value
    have perm := (List.mergeSort_perm items before).filter fun item => decide (key item = value)
    -- Items of one key are in order already, so they reach the sorted list as they are.
    have ordered : (keyed key value items).Pairwise fun left right => before left right = true := by
      rw [List.pairwise_iff_forall_sublist]
      intro left right sublist
      have leftKey := List.of_mem_filter (sublist.subset List.mem_cons_self)
      have rightKey := List.of_mem_filter
        (sublist.subset (List.mem_cons_of_mem _ List.mem_cons_self))
      rw [decide_eq_true_eq] at leftKey rightKey
      rw [compares, leftKey, rightKey]
    have kept := (List.sublist_mergeSort transitive total ordered List.filter_sublist).filter
      fun item => decide (key item = value)
    rw [keyed, List.filter_filter] at kept
    simp only [Bool.and_self] at kept
    exact (kept.eq_of_length perm.length_eq.symm).symm

end EntityForge
