import EntityForge.Proofs.Layout.Levels

/-!
# Texts in chunks

A text that is added to a writer in chunks leaves the same writer as the whole text, wherever it is
cut: inside a line, on either side of a line feed, or at an end.

Writers are compared by what is to be seen of them, now and after all further operations.  How their
text is cut into parts is never seen.  The number of spaces per level is not seen by itself, nor is
whether the current line is still without text, but some operations bring them to light, the latter
unless levels have no spaces.
-/

namespace EntityForge.Layout

/-- What is to be seen of a writer, and of the refusal of an operation on it. -/
structure View where
  level : Nat
  text : Text
  length : Nat
  description : Text
  refusal : Option Writer.Refusal

/-- What a step shows. -/
def Step.view (step : Step) : View :=
  ⟨step.writer.level, step.writer.text, step.writer.length, step.writer.describe, step.refusal⟩

namespace Writer

/-- Whether two writers show the same text and level, and the same after every further operation,
inside blocks, too. -/
structure IsIndistinguishable (left right : Writer) : Prop where
  text : left.text = right.text
  level : left.level = right.level
  later : ∀ commands, (Command.runAll left commands).2.map Step.view =
    (Command.runAll right commands).2.map Step.view

theorem Agrees.view_eq {left right : Writer} (agrees : Agrees left right)
    (refusal : Option Refusal) : Step.view ⟨left, refusal⟩ = Step.view ⟨right, refusal⟩ := by
  have length : left.length = right.length := by
    rw [length_eq, length_eq, agrees.text]
  have described : left.describe = right.describe := by
    unfold describe
    rw [agrees.level, length]
  simp only [Step.view, agrees.level, agrees.text, length, described]

end Writer

/-! ## Runs of writers that agree -/

namespace Command

open Writer

/-- Whether two runs end in writers that agree, and show the same on the way. -/
def AreAlike (left right : Writer × List Step) : Prop :=
  Agrees left.1 right.1 ∧ left.2.map Step.view = right.2.map Step.view

theorem areAlike_single {left right : Writer} (agrees : Agrees left right)
    (refusal : Option Refusal) : AreAlike (left, [⟨left, refusal⟩]) (right, [⟨right, refusal⟩]) :=
  ⟨agrees, congrArg (fun view => [view]) (agrees.view_eq refusal)⟩

/-- Runs that are alike stay so behind steps that show the same. -/
theorem AreAlike.after {left right : Writer} {steps others first second : List Step}
    (later : AreAlike (left, steps) (right, others))
    (shown : first.map Step.view = second.map Step.view) :
    AreAlike (left, first ++ steps) (right, second ++ others) := by
  refine ⟨later.1, ?_⟩
  rw [List.map_append, List.map_append, shown]
  exact congrArg _ later.2

mutual

theorem areAlike_run {left right : Writer} (agrees : Agrees left right) :
    (command : Command) →
      AreAlike ((run left command).1, stepsOf left command)
        ((run right command).1, stepsOf right command)
  | .append text => areAlike_single (agrees.append text) none
  | .appendLine text => areAlike_single (agrees.appendLine text) none
  | .increase => areAlike_single agrees.increase none
  | .clear => areAlike_single agrees.clear none
  | .decrease => by
      cases outside : right.level with
      | zero =>
          rw [stepsOf, stepsOf, run_decrease_of_zero outside,
            run_decrease_of_zero (agrees.level.trans outside)]
          exact areAlike_single agrees _
      | succ level =>
          rw [stepsOf, stepsOf, run_decrease_of_succ outside,
            run_decrease_of_succ (agrees.level.trans outside)]
          exact areAlike_single (agrees.atLevel level) _
  | .block body failure => by
      obtain ⟨inside, shown⟩ := areAlike_runAll agrees.increase body
      cases outside : (runAll right.increase body).1.level with
      | zero =>
          rw [stepsOf, stepsOf, run_block_of_zero outside,
            run_block_of_zero (inside.level.trans outside)]
          exact (areAlike_single inside _).after shown
      | succ level =>
          rw [stepsOf, stepsOf, run_block_of_succ outside,
            run_block_of_succ (inside.level.trans outside)]
          exact (areAlike_single (inside.atLevel level) _).after shown

theorem areAlike_runAll {left right : Writer} (agrees : Agrees left right) :
    (commands : List Command) → AreAlike (runAll left commands) (runAll right commands)
  | [] => ⟨agrees, rfl⟩
  | command :: rest => by
      obtain ⟨between, shown⟩ := areAlike_run agrees command
      rw [runAll_cons, runAll_cons]
      exact (areAlike_runAll between rest).after shown

end

end Command

namespace Writer

open Command

/-- A character that is no line feed shows the spaces before it. -/
theorem spaces_eq_of_text_append {left right : Writer} (text : left.text = right.text)
    (more : (left.append "x").text = (right.append "x").text) : left.spaces = right.spaces := by
  have shown (writer : Writer) :
      (writer.append "x").text.length = writer.text.length + writer.spaces + 1 := by
    have piece : writer.append "x" = writer.appendPiece "x" := rfl
    have single : ("x" : Text).length = 1 := rfl
    rw [piece, text_appendPiece_of_ne writer (by decide)]
    simp [Text.length_append, Text.length_ofList, single]
  have lengths := congrArg Text.length more
  rw [shown, shown, text] at lengths
  omega

/-- Writers cannot be told apart exactly if they agree. -/
theorem isIndistinguishable_iff {left right : Writer} :
    IsIndistinguishable left right ↔ Agrees left right := by
  constructor
  · intro same
    -- At the outermost level no spaces are seen, so that both texts are added one level deeper.
    have fresh := same.later [.clear, .increase, .append "x"]
    have deeper := same.later [.increase, .append "x"]
    simp only [runAll, run, Step.view, List.map_cons, List.nil_append, List.map_nil,
      List.cons.injEq, View.mk.injEq] at fresh deeper
    have unit : left.clear.increase.spaces = right.clear.increase.spaces :=
      spaces_eq_of_text_append rfl fresh.2.2.1.2.1
    have spaces : left.increase.spaces = right.increase.spaces :=
      spaces_eq_of_text_append same.text deeper.2.1.2.1
    simp only [Writer.spaces, clear, increase, if_true, Nat.zero_add, Nat.mul_one] at unit spaces
    refine ⟨unit, same.level, same.text, fun wide => ?_⟩
    rw [← unit, ← same.level] at spaces
    have filled : left.unit * (left.level + 1) ≠ 0 := Nat.mul_ne_zero wide (Nat.succ_ne_zero _)
    rw [Bool.eq_iff_iff]
    grind
  · intro agrees
    exact ⟨agrees.text, agrees.level, fun commands => (areAlike_runAll agrees commands).2⟩

/-- Without spaces per level, it is not to be seen whether the current line has text. -/
example :
    IsIndistinguishable { unit := 0, atLineStart := true } { unit := 0, atLineStart := false } :=
  isIndistinguishable_iff.mpr ⟨rfl, rfl, rfl, fun wide => absurd rfl wide⟩

/-- A text that is cut in two leaves the same writer as the whole, and so does a line that is added
with its line feed: no operation tells them apart. -/
theorem isIndistinguishable_append (writer : Writer) (first second : Text) :
    IsIndistinguishable ((writer.append first).append second) (writer.append (first ++ second)) ∧
      IsIndistinguishable (writer.appendLine first) (writer.append (first ++ "\n")) := by
  exact ⟨isIndistinguishable_iff.mpr (append_append writer first second),
    isIndistinguishable_iff.mpr (appendLine_agrees_append writer first)⟩

end Writer

end EntityForge.Layout
