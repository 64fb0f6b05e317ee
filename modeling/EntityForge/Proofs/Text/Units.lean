import EntityForge.Text.Units
import Mathlib.Data.List.Lex

/-!
# The ordinal order of texts

Texts are in a total preorder, the lexicographic one of their code units.  The units determine a
text of characters, since the surrogates among them stand for supplementary characters only; halves
that a text holds itself have the units of the character that they would make up.  The bytes of the
units, the higher one first, are in the same order.
-/

namespace EntityForge.Text

/-! ## Code units -/

/-- A character is read off the units in front of a text, where a high surrogate announces the
second unit. -/
theorem unitsOfChar_append_inj {left right : Char} {leftRest rightRest : List Nat}
    (equal : unitsOfChar left ++ leftRest = unitsOfChar right ++ rightRest) :
    left = right ∧ leftRest = rightRest := by
  have leftRange := Point.toNat_char_range left
  have rightRange := Point.toNat_char_range right
  have sameCode : left.toNat = right.toNat → left = right := fun same => Char.toNat_inj.mp same
  unfold unitsOfChar at equal
  rw [Point.toNat_scalar, Point.toNat_scalar] at equal
  by_cases leftBasic : left.toNat < 0x10000 <;> by_cases rightBasic : right.toNat < 0x10000
  · simp only [leftBasic, rightBasic, if_true, List.cons_append, List.nil_append,
      List.cons.injEq] at equal
    exact ⟨sameCode equal.1, equal.2⟩
  · simp only [leftBasic, rightBasic, if_true, if_false, List.cons_append, List.nil_append,
      List.cons.injEq] at equal
    omega
  · simp only [leftBasic, rightBasic, if_true, if_false, List.cons_append, List.nil_append,
      List.cons.injEq] at equal
    omega
  · simp only [leftBasic, rightBasic, if_false, List.cons_append, List.nil_append,
      List.cons.injEq] at equal
    exact ⟨sameCode (by omega), equal.2.2⟩

theorem unitsOfChar_ne_nil (character : Point) : unitsOfChar character ≠ [] := by
  rw [unitsOfChar]
  split <;> simp

/-- The code units of a code point take sixteen bits each. -/
theorem lt_of_mem_unitsOfChar {point : Point} {unit : Nat}
    (member : unit ∈ unitsOfChar point) : unit < 0x10000 := by
  have range := point.toNat_lt
  rw [unitsOfChar] at member
  split at member
  next basic =>
    rw [List.mem_singleton] at member
    omega
  next supplementary =>
    simp only [List.mem_cons, List.not_mem_nil, or_false] at member
    cases member with
    | inl high => omega
    | inr low => omega

theorem lt_of_mem_units {text : Text} {unit : Nat} (member : unit ∈ units text) :
    unit < 0x10000 := by
  rw [units, List.mem_flatMap] at member
  cases member with
  | intro point found => exact lt_of_mem_unitsOfChar found.2

/-- Strings with the same code units are equal. -/
theorem units_ofString_inj {left right : String} :
    units left = units right ↔ left = right := by
  constructor
  · intro equal
    rw [← String.toList_inj]
    unfold units at equal
    rw [toList_ofString, toList_ofString] at equal
    generalize left.toList = leftText at equal ⊢
    generalize right.toList = rightText at equal ⊢
    induction leftText generalizing rightText with
    | nil =>
        cases rightText with
        | nil => rfl
        | cons character rest => simp [unitsOfChar_ne_nil] at equal
    | cons character rest ih =>
        cases rightText with
        | nil => simp [unitsOfChar_ne_nil] at equal
        | cons other others =>
            simp only [List.map_cons, List.flatMap_cons] at equal
            obtain ⟨sameFirst, sameRest⟩ := unitsOfChar_append_inj equal
            rw [sameFirst, ih others sameRest]
  · intro equal
    rw [equal]

/-! ## Order -/

/-- One list of units does not come before another exactly if the other one is the lesser. -/
theorem unitsLe_eq_false_iff {left right : List Nat} :
    unitsLe left right = false ↔ right < left := by
  induction left generalizing right with
  | nil => simp [unitsLe]
  | cons first rest ih =>
      cases right with
      | nil => simp [unitsLe]
      | cons other others =>
          rw [List.cons_lt_cons_iff, ← ih]
          simp only [unitsLe, Bool.or_eq_false_iff, Bool.and_eq_false_iff, decide_eq_false_iff_not,
            beq_eq_false_iff_ne]
          constructor
          · intro later
            rcases Nat.lt_trichotomy first other with less | same | greater
            · exact absurd less later.1
            · exact .inr ⟨same.symm, later.2.resolve_left (not_not_intro same)⟩
            · exact .inl greater
          · intro later
            cases later with
            | inl greater => exact ⟨by omega, .inl (by omega)⟩
            | inr alike => exact ⟨by omega, .inr alike.2⟩

/-- Units are in lexicographic order. -/
theorem unitsLe_iff {left right : List Nat} : unitsLe left right = true ↔ left ≤ right := by
  rw [← not_lt, ← unitsLe_eq_false_iff, Bool.not_eq_false]

/-! ## Bytes -/

/-- The two bytes of a code unit, the higher one first. -/
def unitBytes (unit : Nat) : List UInt8 :=
  [UInt8.ofNat (unit / 0x100), UInt8.ofNat (unit % 0x100)]

/-- The bytes of the code units of a text. -/
def bigEndian (text : Text) : List UInt8 :=
  (units text).flatMap unitBytes

theorem ofNat_lt_ofNat_iff {left right : Nat} (leftSmall : left < 0x100)
    (rightSmall : right < 0x100) : UInt8.ofNat left < UInt8.ofNat right ↔ left < right := by
  rw [UInt8.lt_iff_toNat_lt, UInt8.toNat_ofNat', UInt8.toNat_ofNat']
  omega

theorem ofNat_eq_ofNat_iff {left right : Nat} (leftSmall : left < 0x100)
    (rightSmall : right < 0x100) : UInt8.ofNat left = UInt8.ofNat right ↔ left = right := by
  rw [← UInt8.toNat_inj, UInt8.toNat_ofNat', UInt8.toNat_ofNat']
  omega

/-- The first unit decides in bytes, too: its higher byte before its lower one. -/
theorem unitBytes_append_lt_iff {left right : Nat} (leftUnit : left < 0x10000)
    (rightUnit : right < 0x10000) (leftRest rightRest : List UInt8) :
    unitBytes left ++ leftRest < unitBytes right ++ rightRest ↔
      left < right ∨ left = right ∧ leftRest < rightRest := by
  have high : UInt8.ofNat (left / 0x100) < UInt8.ofNat (right / 0x100) ↔
      left / 0x100 < right / 0x100 := ofNat_lt_ofNat_iff (by omega) (by omega)
  have sameHigh : UInt8.ofNat (left / 0x100) = UInt8.ofNat (right / 0x100) ↔
      left / 0x100 = right / 0x100 := ofNat_eq_ofNat_iff (by omega) (by omega)
  have low : UInt8.ofNat (left % 0x100) < UInt8.ofNat (right % 0x100) ↔
      left % 0x100 < right % 0x100 := ofNat_lt_ofNat_iff (by omega) (by omega)
  have sameLow : UInt8.ofNat (left % 0x100) = UInt8.ofNat (right % 0x100) ↔
      left % 0x100 = right % 0x100 := ofNat_eq_ofNat_iff (by omega) (by omega)
  simp only [unitBytes, List.cons_append, List.nil_append, List.cons_lt_cons_iff, high, sameHigh,
    low, sameLow]
  constructor
  · intro before
    rcases before with less | ⟨alike, less | ⟨same, rest⟩⟩
    · exact .inl (by omega)
    · exact .inl (by omega)
    · exact .inr ⟨by omega, rest⟩
  · intro before
    rcases before with less | ⟨same, rest⟩
    · by_cases alike : left / 0x100 = right / 0x100
      · exact .inr ⟨alike, .inl (by omega)⟩
      · exact .inl (by omega)
    · rw [same]
      exact .inr ⟨rfl, .inr ⟨rfl, rest⟩⟩

/-- Bytes are in the order of the units that they stand for, also where a surrogate has no
partner. -/
theorem flatMap_unitBytes_lt_iff {left right : List Nat}
    (leftUnits : ∀ unit ∈ left, unit < 0x10000) (rightUnits : ∀ unit ∈ right, unit < 0x10000) :
    left.flatMap unitBytes < right.flatMap unitBytes ↔ left < right := by
  induction left generalizing right with
  | nil =>
      cases right with
      | nil => simp
      | cons other others => simp [unitBytes]
  | cons first rest ih =>
      cases right with
      | nil => simp
      | cons other others =>
          rw [List.forall_mem_cons] at leftUnits rightUnits
          rw [List.flatMap_cons, List.flatMap_cons,
            unitBytes_append_lt_iff leftUnits.1 rightUnits.1, ih leftUnits.2 rightUnits.2,
            List.cons_lt_cons_iff]

/-- The bytes of texts are in the order of their units. -/
theorem bigEndian_lt_iff {left right : Text} :
    bigEndian left < bigEndian right ↔ units left < units right := by
  apply flatMap_unitBytes_lt_iff
  · intro unit member
    exact lt_of_mem_units member
  · intro unit member
    exact lt_of_mem_units member

/-- The bytes of a text determine its units. -/
theorem bigEndian_eq_iff {left right : Text} :
    bigEndian left = bigEndian right ↔ units left = units right := by
  constructor
  · intro same
    apply le_antisymm
    · rw [← not_lt, ← bigEndian_lt_iff, same]
      exact List.lt_irrefl _
    · rw [← not_lt, ← bigEndian_lt_iff, same]
      exact List.lt_irrefl _
  · intro same
    rw [bigEndian, same, bigEndian]

end EntityForge.Text
