import EntityForge.Proofs.Text.Brackets
import EntityForge.Proofs.TypeName.Arguments

/-!
# Where arguments are separated

A list of arguments is taken apart exactly at the commas that stand outside all angle brackets.
This is told without the pass over the text that does it: by the pieces, which are joined to the
text again, have matching brackets, and hold no comma outside of them.  There is only one way to cut
a text into such pieces, and there is one at all unless the brackets of the text do not match.

A pass over a text keeps track of how many brackets are open, and of the piece since the last comma
outside of them.  The invariant is that this piece leaves open just as many.
-/

namespace EntityForge.TypeName

open EntityForge.Text

/-- The number of commas of a text that stand outside all angle brackets, where `depth` brackets are
open before the text: as many are closed before such a comma as are opened. -/
def outerCommas (depth : Nat) (text : List Point) : Nat :=
  (List.range text.length).countP fun position =>
    text[position]? == some (.scalar ',') &&
      depth + (text.take position).count (.scalar '<') == (text.take position).count (.scalar '>')

/-- Whether pieces are what a text is made of between commas: each of them has matching brackets and
no comma outside of them. -/
structure AreArgumentsOf (pieces : List (List Point)) (text : List Point) : Prop where
  joined : [.scalar ','].intercalate pieces = text
  balanced : ∀ piece ∈ pieces, IsBalanced '<' '>' piece
  whole : ∀ piece ∈ pieces, outerCommas 0 piece = 0

/-! ## Commas outside brackets -/

section

variable {depth : Nat} {rest : List Point}

/-- A first character may be such a comma, and it stands before all the others. -/
theorem outerCommas_cons (first : Point) :
    outerCommas depth (first :: rest) =
      (List.range rest.length).countP (fun position =>
        rest[position]? == some (.scalar ',') &&
          depth + (first :: rest.take position).count (.scalar '<') ==
            (first :: rest.take position).count (.scalar '>')) +
      if first = ',' ∧ depth = 0 then 1 else 0 := by
  rw [outerCommas, List.length_cons, List.range_succ_eq_map, List.countP_cons, List.countP_map]
  simp [Function.comp_def]

theorem outerCommas_opening :
    outerCommas depth (.scalar '<' :: rest) = outerCommas (depth + 1) rest := by
  rw [outerCommas_cons, outerCommas]
  simp [Nat.add_assoc, Nat.add_comm 1]

theorem outerCommas_closing :
    outerCommas (depth + 1) (.scalar '>' :: rest) = outerCommas depth rest := by
  rw [outerCommas_cons, outerCommas]
  simp [Nat.add_right_comm depth 1]

theorem outerCommas_separator : outerCommas 0 (.scalar ',' :: rest) = outerCommas 0 rest + 1 := by
  rw [outerCommas_cons, outerCommas]
  simp

theorem outerCommas_other {character : Point} (noOpening : character ≠ '<')
    (noClosing : character ≠ '>') (noSeparator : ¬(character = ',' ∧ depth = 0)) :
    outerCommas depth (character :: rest) = outerCommas depth rest := by
  rw [outerCommas_cons, if_neg noSeparator, outerCommas, Nat.add_zero]
  simp only [List.count_cons_of_ne noOpening, List.count_cons_of_ne noClosing]

end

/-! ## The pass over a text -/

/-- A text leaves no bracket open, on a pass that refuses commas outside brackets, exactly if its
brackets match and it has no such comma. -/
theorem openBrackets_eq_some_zero_iff {depth : Nat} {text : List Point} :
    openBrackets depth text = some 0 ↔
      Closes '<' '>' depth text ∧ outerCommas depth text = 0 := by
  fun_induction openBrackets depth text with
  | case1 depth => simp [closes_nil_iff, outerCommas]
  | case2 depth rest ih => rw [ih, closes_opening_iff (by decide), outerCommas_opening]
  | case3 rest => simp [not_closes_closing]
  | case4 rest depth _ ih => rw [ih, closes_closing_iff (by decide), outerCommas_closing]
  | case5 depth character rest _ _ separator =>
      rw [separator.1, separator.2, outerCommas_separator]
      simp
  | case6 depth character rest noOpening noClosing noSeparator ih =>
      rw [ih, closes_other_iff noOpening noClosing,
        outerCommas_other noOpening noClosing noSeparator]

/-- A pass succeeds exactly if the brackets match. -/
theorem exists_splitArgumentsFrom_iff {depth : Nat} {piece text : List Point} :
    (∃ found, splitArgumentsFrom depth piece text = .ok found) ↔ Closes '<' '>' depth text := by
  fun_induction splitArgumentsFrom depth piece text with
  | case1 piece => simp [closes_nil_iff]
  | case2 depth piece nested => simp [closes_nil_iff, nested]
  | case3 depth piece rest ih => rw [ih, closes_opening_iff (by decide)]
  | case4 piece rest => simp [not_closes_closing]
  | case5 depth piece rest _ ih => rw [ih, closes_closing_iff (by decide)]
  | case6 depth piece character rest noOpening noClosing separator ih =>
      rw [separator.2, exists_map_eq_ok_iff, ih, closes_other_iff noOpening noClosing]
  | case7 depth piece character rest noOpening noClosing _ ih =>
      rw [ih, closes_other_iff noOpening noClosing]

theorem length_of_splitArgumentsFrom {depth : Nat} {piece text : List Point}
    {found : List (List Point)} (split : splitArgumentsFrom depth piece text = .ok found) :
    found.length = outerCommas depth text + 1 := by
  fun_induction splitArgumentsFrom depth piece text generalizing found with
  | case1 piece =>
      cases split
      rfl
  | case2 | case4 => cases split
  | case3 depth piece rest ih => rw [ih split, outerCommas_opening]
  | case5 depth piece rest _ ih => rw [ih split, outerCommas_closing]
  | case6 depth piece character rest _ _ separator ih =>
      obtain ⟨others, splitRest, rfl⟩ := map_eq_ok_iff.mp split
      rw [separator.1, separator.2, outerCommas_separator, List.length_cons, ih splitRest]
  | case7 depth piece character rest noOpening noClosing noSeparator ih =>
      rw [ih split, outerCommas_other noOpening noClosing noSeparator]

/-- Every piece closes its own brackets, and the first one those that were open. -/
theorem openBrackets_of_splitArgumentsFrom {depth : Nat} {piece text : List Point}
    {found : List (List Point)} (split : splitArgumentsFrom depth piece text = .ok found)
    (leaves : openBrackets 0 piece.reverse = some depth) :
    ∀ member ∈ found, openBrackets 0 member = some 0 := by
  fun_induction splitArgumentsFrom depth piece text generalizing found with
  | case1 piece =>
      cases split
      simpa using leaves
  | case2 | case4 => cases split
  | case3 depth piece rest ih =>
      refine ih split ?_
      rw [List.reverse_cons, openBrackets_append leaves, openBrackets_opening]
      rfl
  | case5 depth piece rest _ ih =>
      refine ih split ?_
      rw [List.reverse_cons, openBrackets_append leaves, openBrackets_closing]
      rfl
  | case6 depth piece character rest _ _ separator ih =>
      obtain ⟨others, splitRest, rfl⟩ := map_eq_ok_iff.mp split
      rw [separator.2] at leaves
      exact List.forall_mem_cons.mpr ⟨leaves, ih splitRest rfl⟩
  | case7 depth piece character rest noOpening noClosing noSeparator ih =>
      refine ih split ?_
      rw [List.reverse_cons, openBrackets_append leaves,
        openBrackets_other noOpening noClosing noSeparator]
      rfl

/-! ## Arguments -/

theorem exists_splitArguments_iff {text : List Point} :
    (∃ found, splitArguments text = .ok found) ↔ IsBalanced '<' '>' text := by
  rw [splitArguments, exists_map_eq_ok_iff, exists_splitArgumentsFrom_iff, closes_zero_iff]

theorem exists_splitArguments_eq_error_iff {text : List Point} :
    (∃ reason, splitArguments text = .error reason) ↔ ¬IsBalanced '<' '>' text := by
  rw [← exists_splitArguments_iff]
  cases splitArguments text <;> simp

/-- The pieces between the commas outside brackets are those that the pass finds. -/
theorem areArgumentsOf_iff {pieces : List (List Point)} {text : List Point}
    (nonempty : pieces ≠ []) :
    AreArgumentsOf pieces text ↔ splitArgumentsFrom 0 [] text = .ok pieces := by
  have closed (piece : List Point) : openBrackets 0 piece = some 0 ↔
      IsBalanced '<' '>' piece ∧ outerCommas 0 piece = 0 := by
    rw [openBrackets_eq_some_zero_iff, closes_zero_iff]
  constructor
  · rintro ⟨rfl, balanced, whole⟩
    exact splitArgumentsFrom_intercalate nonempty fun piece member =>
      (closed piece).mpr ⟨balanced piece member, whole piece member⟩
  · intro split
    have each := openBrackets_of_splitArgumentsFrom split rfl
    exact ⟨(eq_intercalate_of_splitArgumentsFrom split).2.symm,
      fun piece member => ((closed piece).mp (each piece member)).1,
      fun piece member => ((closed piece).mp (each piece member)).2⟩

/-- A list of arguments is refused exactly if some beginning of it closes more brackets than it
opens, or if the whole does not close as many as it opens.  Otherwise the arguments are the pieces
between the commas outside brackets, without blanks around them, and there is one piece more than
there are such commas.  No other pieces make up the text; only no pieces at all are left out, which
are joined to the empty text, too. -/
theorem splitArguments_separates (text : List Point) :
    ((∃ reason, splitArguments text = .error reason) ↔
      (∃ start, start <+: text ∧ start.count (.scalar '<') < start.count (.scalar '>')) ∨
        text.count (.scalar '<') ≠ text.count (.scalar '>')) ∧
    (IsBalanced '<' '>' text →
      ∃ pieces, splitArguments text = .ok (pieces.map trim) ∧ AreArgumentsOf pieces text ∧
        pieces.length = outerCommas 0 text + 1 ∧
        ∀ others, others ≠ [] → AreArgumentsOf others text → others = pieces) := by
  constructor
  · rw [exists_splitArguments_eq_error_iff, not_isBalanced_iff]
  · intro balanced
    obtain ⟨pieces, split⟩ := exists_splitArgumentsFrom_iff.mpr (closes_zero_iff.mpr balanced)
    have nonempty := (eq_intercalate_of_splitArgumentsFrom split).1
    refine ⟨pieces, map_eq_ok_iff.mpr ⟨pieces, split, rfl⟩,
      (areArgumentsOf_iff nonempty).mpr split, length_of_splitArgumentsFrom split, ?_⟩
    intro others some areArguments
    have same := (areArgumentsOf_iff some).mp areArguments
    exact Except.ok.inj (same.symm.trans split)

/-- A comma between brackets separates nothing, and one at the very end has an empty piece behind
it. -/
theorem splitArguments_separates_nested :
    IsBalanced '<' '>' (" A<B, C> ,D," : Text).toList ∧
      outerCommas 0 (" A<B, C> ,D," : Text).toList = 2 ∧
      ∃ pieces, splitArguments (" A<B, C> ,D," : Text).toList = .ok (pieces.map trim) ∧
        AreArgumentsOf pieces (" A<B, C> ,D," : Text).toList ∧ pieces.length = 3 ∧
        ∀ others, others ≠ [] →
          AreArgumentsOf others (" A<B, C> ,D," : Text).toList → others = pieces :=
  have balanced : IsBalanced '<' '>' (" A<B, C> ,D," : Text).toList := by decide
  ⟨balanced, by decide, (splitArguments_separates _).2 balanced⟩

end EntityForge.TypeName
