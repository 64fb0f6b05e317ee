import EntityForge.Proofs.Text.Lines
import EntityForge.Proofs.Traversal
import EntityForge.TypeName.Reader

/-!
# Lists of arguments

Arguments are separated at the commas outside all angle brackets.  Joining what was separated gives
the text back; and texts whose brackets match and whose commas all stand between brackets stay in
one piece, so that they are found again in a joined text.
-/

namespace EntityForge.TypeName

open EntityForge.Text

/-- The number of angle brackets that are open behind a text, where `depth` are open before it.
There is none if a bracket is closed that was not opened, or if a comma stands outside all
brackets. -/
def openBrackets (depth : Nat) : List Point → Option Nat
  | [] => some depth
  | character :: rest =>
      if character = '<' then openBrackets (depth + 1) rest
      else if character = '>' then
        match depth with
        | 0 => none
        | depth + 1 => openBrackets depth rest
      else if character = ',' ∧ depth = 0 then none
      else openBrackets depth rest

theorem openBrackets_opening (depth : Nat) (rest : List Point) :
    openBrackets depth (.scalar '<' :: rest) = openBrackets (depth + 1) rest := by
  rw [openBrackets.eq_def]
  rfl

theorem openBrackets_closing (depth : Nat) (rest : List Point) :
    openBrackets (depth + 1) (.scalar '>' :: rest) = openBrackets depth rest := by
  rw [openBrackets.eq_def]
  rfl

theorem openBrackets_other {depth : Nat} {character : Point} (noOpening : character ≠ '<')
    (noClosing : character ≠ '>') (noSeparator : ¬(character = ',' ∧ depth = 0))
    (rest : List Point) : openBrackets depth (character :: rest) = openBrackets depth rest := by
  rw [openBrackets.eq_def]
  simp only [if_neg noOpening, if_neg noClosing, if_neg noSeparator]

/-- What follows a text is counted from the brackets that it leaves open. -/
theorem openBrackets_append {depth after : Nat} {left : List Point}
    (counted : openBrackets depth left = some after) (right : List Point) :
    openBrackets depth (left ++ right) = openBrackets after right := by
  fun_induction openBrackets depth left with
  | case1 depth =>
      cases counted
      rfl
  | case2 depth rest ih => exact ih counted
  | case3 | case5 => cases counted
  | case4 depth rest _ ih => exact ih counted
  | case6 depth character rest noOpening noClosing noSeparator ih =>
      rw [List.cons_append, openBrackets_other noOpening noClosing noSeparator]
      exact ih counted

/-- Brackets around a text do not matter for it. -/
theorem openBrackets_add {depth after : Nat} {text : List Point}
    (counted : openBrackets depth text = some after) (outer : Nat) :
    openBrackets (depth + outer) text = some (after + outer) := by
  fun_induction openBrackets depth text with
  | case1 depth =>
      cases counted
      rfl
  | case2 depth rest ih =>
      rw [openBrackets_opening, Nat.add_right_comm]
      exact ih counted
  | case3 | case5 => cases counted
  | case4 rest depth _ ih =>
      rw [Nat.succ_add, openBrackets_closing]
      exact ih counted
  | case6 depth character rest noOpening noClosing noSeparator ih =>
      have insideOnly : ¬(character = ',' ∧ depth + outer = 0) := by
        rintro ⟨comma, outside⟩
        exact noSeparator ⟨comma, by omega⟩
      rw [openBrackets_other noOpening noClosing insideOnly]
      exact ih counted

/-- A text without brackets and commas leaves open what was open. -/
theorem openBrackets_of_notMem {text : List Point} (noOpening : .scalar '<' ∉ text)
    (noClosing : .scalar '>' ∉ text) (noComma : .scalar ',' ∉ text) (depth : Nat) :
    openBrackets depth text = some depth := by
  induction text with
  | nil => rfl
  | cons character rest ih =>
      simp only [List.mem_cons, not_or] at noOpening noClosing noComma
      rw [openBrackets_other (Ne.symm noOpening.1) (Ne.symm noClosing.1)
        fun both => noComma.1 both.1.symm]
      exact ih noOpening.2 noClosing.2 noComma.2

/-- Arguments that are closed by themselves can be listed between brackets. -/
theorem openBrackets_intercalate {arguments : List (List Point)}
    (closed : ∀ argument ∈ arguments, openBrackets 0 argument = some 0) :
    openBrackets 1 ([.scalar ','].intercalate arguments) = some 1 := by
  induction arguments with
  | nil => rfl
  | cons argument rest ih =>
      rw [List.forall_mem_cons] at closed
      have here := openBrackets_add closed.1 1
      cases rest with
      | nil => simpa using here
      | cons next others =>
          rw [List.intercalate_cons_cons, List.append_assoc, openBrackets_append here]
          exact ih closed.2

/-! ## Splitting -/

theorem splitArgumentsFrom_opening (depth : Nat) (piece rest : List Point) :
    splitArgumentsFrom depth piece (.scalar '<' :: rest) =
      splitArgumentsFrom (depth + 1) (.scalar '<' :: piece) rest := by
  rw [splitArgumentsFrom.eq_def]
  rfl

theorem splitArgumentsFrom_closing (depth : Nat) (piece rest : List Point) :
    splitArgumentsFrom (depth + 1) piece (.scalar '>' :: rest) =
      splitArgumentsFrom depth (.scalar '>' :: piece) rest := by
  rw [splitArgumentsFrom.eq_def]
  rfl

theorem splitArgumentsFrom_separator (piece rest : List Point) :
    splitArgumentsFrom 0 piece (.scalar ',' :: rest) =
      (splitArgumentsFrom 0 [] rest).map (piece.reverse :: ·) := by
  rw [splitArgumentsFrom.eq_def]
  rfl

theorem splitArgumentsFrom_other {depth : Nat} {character : Point} (noOpening : character ≠ '<')
    (noClosing : character ≠ '>') (noSeparator : ¬(character = ',' ∧ depth = 0))
    (piece rest : List Point) :
    splitArgumentsFrom depth piece (character :: rest) =
      splitArgumentsFrom depth (character :: piece) rest := by
  rw [splitArgumentsFrom.eq_def]
  simp only [if_neg noOpening, if_neg noClosing, if_neg noSeparator]

/-- A closed text stays in one piece. -/
theorem splitArgumentsFrom_append {depth after : Nat} {text : List Point}
    (counted : openBrackets depth text = some after) (piece rest : List Point) :
    splitArgumentsFrom depth piece (text ++ rest) =
      splitArgumentsFrom after (text.reverse ++ piece) rest := by
  fun_induction openBrackets depth text generalizing piece with
  | case1 depth =>
      cases counted
      rfl
  | case2 depth tail ih =>
      rw [List.cons_append, splitArgumentsFrom_opening, ih counted, List.reverse_cons,
        List.append_assoc, List.singleton_append]
  | case3 | case5 => cases counted
  | case4 tail depth _ ih =>
      rw [List.cons_append, splitArgumentsFrom_closing, ih counted, List.reverse_cons,
        List.append_assoc, List.singleton_append]
  | case6 depth character tail noOpening noClosing noSeparator ih =>
      rw [List.cons_append, splitArgumentsFrom_other noOpening noClosing noSeparator, ih counted,
        List.reverse_cons, List.append_assoc, List.singleton_append]

theorem splitArgumentsFrom_intercalate {arguments : List (List Point)} (nonempty : arguments ≠ [])
    (closed : ∀ argument ∈ arguments, openBrackets 0 argument = some 0) :
    splitArgumentsFrom 0 [] ([.scalar ','].intercalate arguments) = .ok arguments := by
  induction arguments with
  | nil => exact absurd rfl nonempty
  | cons argument rest ih =>
      rw [List.forall_mem_cons] at closed
      cases rest with
      | nil =>
          have split := splitArgumentsFrom_append closed.1 [] []
          rw [List.append_nil, List.append_nil] at split
          rw [List.intercalate_singleton, split, splitArgumentsFrom, if_pos rfl,
            List.reverse_reverse]
      | cons next others =>
          rw [List.intercalate_cons_cons, List.append_assoc, splitArgumentsFrom_append closed.1,
            List.singleton_append, splitArgumentsFrom_separator,
            ih (List.cons_ne_nil next others) closed.2, List.append_nil, List.reverse_reverse]
          rfl

/-- Joined arguments that are closed by themselves are found again. -/
theorem splitArguments_intercalate {arguments : List (List Point)} (nonempty : arguments ≠ [])
    (closed : ∀ argument ∈ arguments, openBrackets 0 argument = some 0) :
    splitArguments ([.scalar ','].intercalate arguments) = .ok (arguments.map trim) := by
  rw [splitArguments, splitArgumentsFrom_intercalate nonempty closed]
  rfl

/-- The pieces of a text are joined to it. -/
theorem eq_intercalate_of_splitArgumentsFrom {depth : Nat} {piece text : List Point}
    {found : List (List Point)} (split : splitArgumentsFrom depth piece text = .ok found) :
    found ≠ [] ∧ piece.reverse ++ text = [.scalar ','].intercalate found := by
  fun_induction splitArgumentsFrom depth piece text generalizing found with
  | case1 piece =>
      cases split
      exact ⟨List.cons_ne_nil _ _, by simp⟩
  | case2 | case4 => cases split
  | case3 depth piece rest ih | case5 depth piece rest _ ih =>
      obtain ⟨nonempty, joined⟩ := ih split
      exact ⟨nonempty, by simpa using joined⟩
  | case6 depth piece character rest _ _ comma ih =>
      obtain ⟨others, splitRest, rfl⟩ := map_eq_ok_iff.mp split
      obtain ⟨nonempty, joined⟩ := ih splitRest
      obtain ⟨next, more, rfl⟩ := List.exists_cons_of_ne_nil nonempty
      refine ⟨List.cons_ne_nil _ _, ?_⟩
      rw [List.intercalate_cons_cons, ← joined, comma.1]
      simp
  | case7 depth piece character rest _ _ _ ih =>
      obtain ⟨nonempty, joined⟩ := ih split
      exact ⟨nonempty, by simpa using joined⟩

theorem exists_of_splitArguments {text : List Point} {found : List (List Point)}
    (split : splitArguments text = .ok found) :
    ∃ arguments, arguments ≠ [] ∧ text = [.scalar ','].intercalate arguments ∧
      found = arguments.map trim := by
  obtain ⟨arguments, untrimmed, rfl⟩ := map_eq_ok_iff.mp split
  obtain ⟨nonempty, joined⟩ := eq_intercalate_of_splitArgumentsFrom untrimmed
  exact ⟨arguments, nonempty, joined, rfl⟩

end EntityForge.TypeName
