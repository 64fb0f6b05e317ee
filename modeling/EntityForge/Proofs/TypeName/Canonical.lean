import EntityForge.Proofs.TypeName.Reading

/-!
# Canonical type names

A type name is accepted exactly if it spells a type expression, which is then the only one that it
spells, and its canonical form is that expression as it is printed.  However many blanks a name was
written with, the canonical form has one behind each comma and no other.
-/

namespace EntityForge.TypeName

open EntityForge.Text

/-! ## Blanks in printed types -/

/-- Whether the blanks of a text are single spaces behind commas. -/
def IsTight (text : List Point) : Prop :=
  ∀ before blank after, text = before ++ blank :: after → isBlank blank = true →
    blank = ' ' ∧ before.getLast? = some (.scalar ',')

namespace IsTight

theorem of_forall {text : List Point} (filled : ∀ character ∈ text, isBlank character = false) :
    IsTight text := by
  rintro before blank after rfl isBlank
  cases (filled blank (by simp)).symm.trans isBlank

theorem nil : IsTight [] :=
  of_forall fun _ none => absurd none List.not_mem_nil

theorem separator : IsTight [.scalar ',', .scalar ' '] := by
  intro before blank after split isBlank
  match before, split with
  | [], split =>
      cases split
      cases isBlank
  | [comma], split =>
      cases split
      exact ⟨rfl, rfl⟩
  | _ :: _ :: _, split => simp at split

/-- A tight text does not begin with a blank, so that nothing changes where texts meet. -/
theorem append {left right : List Point} (leftTight : IsTight left) (rightTight : IsTight right) :
    IsTight (left ++ right) := by
  intro before blank after split isBlank
  rcases List.append_eq_append_iff.mp split with ⟨middle, rfl, inRight⟩ | ⟨middle, rfl, inLeft⟩
  · obtain ⟨space, behindComma⟩ := rightTight middle blank after inRight isBlank
    exact ⟨space, by rw [List.getLast?_append, behindComma]; rfl⟩
  · cases middle with
    | nil =>
        obtain ⟨_, impossible⟩ := rightTight [] blank after inLeft.symm isBlank
        cases impossible
    | cons first rest =>
        cases inLeft
        exact leftTight before blank rest rfl isBlank

theorem intercalate {texts : List (List Point)} (tight : ∀ text ∈ texts, IsTight text) :
    IsTight ([.scalar ',', .scalar ' '].intercalate texts) := by
  induction texts with
  | nil => exact nil
  | cons text rest ih =>
      rw [List.forall_mem_cons] at tight
      cases rest with
      | nil => simpa using tight.1
      | cons next others =>
          rw [List.intercalate_cons_cons]
          exact (tight.1.append separator).append (ih tight.2)

end IsTight

theorem isTight_aliasOf {name : List Point} (dotted : IsDottedName name) :
    IsTight (aliasOf (Text.ofList name)).toList :=
  .of_forall fun _ => dotted.aliasOf.isBlank_eq_false

theorem isTight_print {tree : TypeTree} (formed : IsWellFormed tree) :
    IsTight tree.print.toList := by
  have sign {word : List Point} (filled : word.any isBlank = false) : IsTight word :=
    .of_forall fun character member => Bool.eq_false_iff.mpr
      (List.any_eq_false.mp filled character member)
  induction formed with
  | named dotted =>
      rw [TypeTree.print]
      exact isTight_aliasOf dotted
  | array _ ih =>
      rw [TypeTree.print, Text.toList_append]
      exact ih.append (sign (by decide))
  | @generic head trees dotted _ _ ih =>
      have printed : ∀ text ∈ (trees.map TypeTree.print).map Text.toList, IsTight text :=
        List.forall_mem_map.mpr (List.forall_mem_map.mpr ih)
      have name : IsTight head := .of_forall fun _ => dotted.isBlank_eq_false
      simp only [TypeTree.print, Text.toList_append,
        Text.toList_intercalate]
      exact ((name.append (sign (by decide))).append (.intercalate printed)).append
        (sign (by decide))

/-! ## Canonical forms -/

/-- Every text spells at most one type expression.  Its canonical form exists exactly if it spells
one, and is that expression as it is printed, with blanks behind commas only. -/
theorem canonical_iff_spells (text : Text) :
    (∀ left right, Spells text.toList left → Spells text.toList right → left = right) ∧
    (∀ printed, canonical text = .ok printed ↔
      ∃ tree, Spells text.toList tree ∧ tree.print = printed) ∧
    (∀ printed, canonical text = .ok printed → IsTight printed.toList) ∧
    ((∃ fault, canonical text = .error fault) ↔ ¬∃ tree, Spells text.toList tree) := by
  refine ⟨?_, fun _ => canonical_eq_ok_iff, ?_, ?_⟩
  · intro left right spellsLeft spellsRight
    have readLeft := readChars_eq_ok_iff.mpr spellsLeft
    have readRight := readChars_eq_ok_iff.mpr spellsRight
    exact Except.ok.inj (readLeft.symm.trans readRight)
  · intro printed found
    obtain ⟨tree, spells, rfl⟩ := canonical_eq_ok_iff.mp found
    exact isTight_print spells.isWellFormed
  · rw [← exists_canonical_eq_ok_iff]
    cases canonical text with
    | ok printed => simp
    | error fault => simp

end EntityForge.TypeName
