import EntityForge.Text.Point
import Mathlib.Data.List.Infix
import Mathlib.Tactic.MkIffOfInductiveProp

/-!
# Balanced brackets

A text with one kind of brackets is balanced if no bracket is closed that was not opened before,
and all of them are closed in the end.  Only the brackets themselves matter, and balanced texts
stay balanced behind each other and between brackets of their own.
-/

namespace EntityForge.Text

variable {opening closing : Point}

/-- Whether the brackets of a text pair up. -/
@[mk_iff] structure IsBalanced (opening closing : Point) (text : List Point) : Prop where
  /-- Along the way no bracket is closed that is not open. -/
  opened : ∀ start, start <+: text → start.count closing ≤ start.count opening
  /-- In the end no bracket is open. -/
  closed : text.count opening = text.count closing

namespace IsBalanced

/-- A text without brackets. -/
theorem of_notMem {text : List Point} (noOpening : opening ∉ text) (noClosing : closing ∉ text) :
    IsBalanced opening closing text where
  opened start begins := by
    rw [List.count_eq_zero.mpr fun member => noClosing (begins.subset member)]
    exact Nat.zero_le _
  closed := by rw [List.count_eq_zero.mpr noOpening, List.count_eq_zero.mpr noClosing]

theorem nil : IsBalanced opening closing [] :=
  of_notMem List.not_mem_nil List.not_mem_nil

theorem append {left right : List Point} (first : IsBalanced opening closing left)
    (second : IsBalanced opening closing right) : IsBalanced opening closing (left ++ right) where
  opened start begins := by
    rcases List.prefix_or_prefix_of_prefix begins (List.prefix_append left right) with
      inFirst | beyond
    · exact first.opened start inFirst
    · obtain ⟨rest, rfl⟩ := beyond
      have inSecond := second.opened rest ((List.prefix_append_right_inj left).mp begins)
      rw [List.count_append, List.count_append, first.closed]
      exact Nat.add_le_add_left inSecond _
  closed := by rw [List.count_append, List.count_append, first.closed, second.closed]

/-- A balanced text between brackets of its own. -/
theorem enclose {text : List Point} (different : opening ≠ closing)
    (balanced : IsBalanced opening closing text) :
    IsBalanced opening closing (opening :: (text ++ [closing])) where
  opened start begins := by
    rcases List.prefix_cons_iff.mp begins with rfl | ⟨rest, rfl, within⟩
    · exact Nat.le_refl _
    · rw [List.count_cons_of_ne different, List.count_cons_self]
      rcases List.prefix_concat_iff.mp within with rfl | inText
      · rw [List.count_append, List.count_append, balanced.closed, List.count_singleton_self]
        omega
      · exact Nat.le_succ_of_le (balanced.opened rest inText)
  closed := by
    simp [different, different.symm, balanced.closed]

/-- Characters that are no brackets have no say. -/
theorem filter_iff {text : List Point} {keep : Point → Bool} (keepsOpening : keep opening = true)
    (keepsClosing : keep closing = true) :
    IsBalanced opening closing (text.filter keep) ↔ IsBalanced opening closing text := by
  constructor
  · intro balanced
    refine ⟨fun start begins => ?_, ?_⟩
    · simpa only [List.count_filter keepsOpening, List.count_filter keepsClosing] using
        balanced.opened _ (begins.filter keep)
    · simpa only [List.count_filter keepsOpening, List.count_filter keepsClosing] using
        balanced.closed
  · intro balanced
    refine ⟨?_, ?_⟩
    · rintro start ⟨rest, whole⟩
      obtain ⟨before, after, rfl, rfl, _⟩ := List.filter_eq_append_iff.mp whole.symm
      rw [List.count_filter keepsOpening, List.count_filter keepsClosing]
      exact balanced.opened before (List.prefix_append before after)
    · rw [List.count_filter keepsOpening, List.count_filter keepsClosing, balanced.closed]

instance (text : List Point) : Decidable (IsBalanced opening closing text) :=
  decidable_of_iff
    ((∀ start ∈ text.inits, start.count closing ≤ start.count opening) ∧
      text.count opening = text.count closing) <| by
    rw [isBalanced_iff]
    simp only [List.mem_inits]

end IsBalanced

theorem not_isBalanced_iff {text : List Point} :
    ¬IsBalanced opening closing text ↔
      (∃ start, start <+: text ∧ start.count opening < start.count closing) ∨
        text.count opening ≠ text.count closing := by
  rw [isBalanced_iff, not_and_or]
  simp only [not_forall, exists_prop, not_le]

/-! ## Behind open brackets -/

/-- Whether the brackets of a text pair up with each other and with those that are open before it,
of which there are `depth`. -/
@[mk_iff] structure Closes (opening closing : Point) (depth : Nat) (text : List Point) : Prop where
  /-- Along the way no bracket is closed that is not open. -/
  opened : ∀ start, start <+: text → start.count closing ≤ depth + start.count opening
  /-- In the end no bracket is open. -/
  closed : depth + text.count opening = text.count closing

theorem closes_zero_iff {text : List Point} :
    Closes opening closing 0 text ↔ IsBalanced opening closing text := by
  rw [closes_iff, isBalanced_iff]
  simp only [Nat.zero_add]

theorem closes_nil_iff {depth : Nat} : Closes opening closing depth [] ↔ depth = 0 := by
  constructor
  · rintro ⟨_, closed⟩
    exact closed
  · rintro rfl
    exact closes_zero_iff.mpr .nil

section

variable {depth : Nat} {rest : List Point}

/-- The beginnings of a text are the empty one and those behind its first character. -/
theorem closes_cons_iff {first : Point} :
    Closes opening closing depth (first :: rest) ↔
      (∀ start, start <+: rest →
        (first :: start).count closing ≤ depth + (first :: start).count opening) ∧
      depth + (first :: rest).count opening = (first :: rest).count closing := by
  rw [closes_iff]
  refine and_congr_left fun _ => ⟨fun each start begins => ?_, fun each start begins => ?_⟩
  · exact each _ ((List.prefix_cons_inj first).mpr begins)
  · rcases List.prefix_cons_iff.mp begins with rfl | ⟨tail, rfl, inRest⟩
    · exact Nat.zero_le _
    · exact each tail inRest

theorem closes_opening_iff (different : opening ≠ closing) :
    Closes opening closing depth (opening :: rest) ↔
      Closes opening closing (depth + 1) rest := by
  rw [closes_cons_iff, closes_iff]
  simp only [List.count_cons_self, List.count_cons_of_ne different]
  refine and_congr (forall₂_congr fun start _ => ?_) ?_ <;> omega

theorem closes_closing_iff (different : opening ≠ closing) :
    Closes opening closing (depth + 1) (closing :: rest) ↔ Closes opening closing depth rest := by
  rw [closes_cons_iff, closes_iff]
  simp only [List.count_cons_self, List.count_cons_of_ne different.symm]
  refine and_congr (forall₂_congr fun start _ => ?_) ?_ <;> omega

/-- No bracket can be closed where none is open. -/
theorem not_closes_closing (different : opening ≠ closing) :
    ¬Closes opening closing 0 (closing :: rest) := by
  rw [closes_cons_iff]
  rintro ⟨opened, _⟩
  have bound := opened [] List.nil_prefix
  simp [different.symm] at bound

theorem closes_other_iff {character : Point} (noOpening : character ≠ opening)
    (noClosing : character ≠ closing) :
    Closes opening closing depth (character :: rest) ↔ Closes opening closing depth rest := by
  rw [closes_cons_iff, closes_iff]
  simp only [List.count_cons_of_ne noOpening, List.count_cons_of_ne noClosing]

end

end EntityForge.Text
