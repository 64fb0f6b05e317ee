import EntityForge.Proofs.Layout.Characters
import Mathlib.Combinatorics.Enumerative.DyckWord

/-!
# Levels of runs

How deep a writer stands in the course of a run.  A block is left at the level at which it was
entered if the operations in it go back as often as they go deeper, and at no time more often.  The
invariant behind that follows the turns between levels: where the turns of a run, however far
inside, lead from the level of a writer to another one, the run leads there, too, and refuses
nothing.  Whatever else a run does, a counter over the integers that refuses to go back only where
it stands at zero shows the same levels, so that none of them is negative, and a refused operation
leaves the writer as it was.
-/

namespace EntityForge.Layout

namespace Writer

theorem level_appendPiece (writer : Writer) (piece : Text) :
    (writer.appendPiece piece).level = writer.level := by
  rw [appendPiece]
  split
  next => rfl
  next => exact writer.level_indent

theorem level_appendPieces (writer : Writer) (pieces : List Text) :
    (writer.appendPieces pieces).level = writer.level := by
  fun_induction appendPieces writer pieces with
  | case1 => rfl
  | case2 writer piece => exact writer.level_appendPiece piece
  | case3 writer piece rest more ih => exact ih.trans (writer.level_appendPiece piece)

/-- Text does not change the level. -/
theorem level_append (writer : Writer) (text : Text) :
    (writer.append text).level = writer.level :=
  writer.level_appendPieces _

theorem decrease_of_zero {writer : Writer} (outermost : writer.level = 0) :
    writer.decrease = .error .levelBelowZero := by
  rw [decrease, outermost]

theorem decrease_of_succ {writer : Writer} {level : Nat} (inside : writer.level = level + 1) :
    writer.decrease = .ok { writer with level } := by
  rw [decrease, inside]

end Writer

/-! ## Turns -/

/-- The level after a turn, unless it goes back behind the outermost one. -/
def turned? : Nat → DyckStep → Option Nat
  | level, .U => some (level + 1)
  | 0, .D => none
  | level + 1, .D => some level

/-- The level to which turns lead from another one. -/
def levelAfter? (level : Nat) (turns : List DyckStep) : Option Nat :=
  turns.foldlM turned? level

theorem levelAfter?_cons (level : Nat) (turn : DyckStep) (rest : List DyckStep) :
    levelAfter? level (turn :: rest) = (turned? level turn).bind (levelAfter? · rest) :=
  rfl

theorem levelAfter?_append (level : Nat) (first second : List DyckStep) :
    levelAfter? level (first ++ second) =
      (levelAfter? level first).bind (levelAfter? · second) :=
  List.foldlM_append

/-- Turns lead as far from one level deeper, and one level deeper. -/
theorem levelAfter?_succ {level reached : Nat} {turns : List DyckStep}
    (leads : levelAfter? level turns = some reached) :
    levelAfter? (level + 1) turns = some (reached + 1) := by
  induction turns generalizing level with
  | nil =>
      cases leads
      rfl
  | cons turn rest ih =>
      rw [levelAfter?_cons, Option.bind_eq_some_iff] at leads
      obtain ⟨between, here, later⟩ := leads
      have deeper : turned? (level + 1) turn = some (between + 1) := by
        cases turn with
        | U =>
            cases here
            rfl
        | D =>
            cases level with
            | zero => cases here
            | succ lower =>
                cases here
                rfl
      rw [levelAfter?_cons, deeper]
      exact ih later

/-- Turns that go back at no time more often than the levels allow lead to what they add up to. -/
theorem levelAfter?_of_count {level reached : Nat} {turns : List DyckStep}
    (balance : reached + turns.count .D = level + turns.count .U)
    (within : ∀ length, (turns.take length).count .D ≤ level + (turns.take length).count .U) :
    levelAfter? level turns = some reached := by
  induction turns generalizing level with
  | nil =>
      have same : reached = level := balance
      rw [same]
      rfl
  | cons turn rest ih =>
      -- What holds of the first turn and some of the others holds of these, one level on.
      have later (length : Nat) := within (length + 1)
      simp only [List.take_succ_cons] at later
      cases turn with
      | U =>
          have other (turns : List DyckStep) : (DyckStep.U :: turns).count .D = turns.count .D :=
            List.count_cons_of_ne (by decide)
          simp only [other, List.count_cons_self] at balance later
          change levelAfter? (level + 1) rest = some reached
          refine ih (by omega) fun length => ?_
          have bound := later length
          omega
      | D =>
          have other (turns : List DyckStep) : (DyckStep.D :: turns).count .U = turns.count .U :=
            List.count_cons_of_ne (by decide)
          simp only [other, List.count_cons_self] at balance later
          cases level with
          | zero =>
              have bound := later 0
              simp at bound
          | succ lower =>
              change levelAfter? lower rest = some reached
              refine ih (by omega) fun length => ?_
              have bound := later length
              omega

/-- A balanced word leads back to where it begins. -/
theorem levelAfter?_dyckWord (level : Nat) (word : DyckWord) :
    levelAfter? level word.toList = some level := by
  apply levelAfter?_of_count
  · rw [word.count_U_eq_count_D]
  · exact fun length => le_add_of_le_right (word.count_D_le_count_U length)

/-- The level to which turns lead is what they add up to. -/
theorem count_of_levelAfter? {level reached : Nat} {turns : List DyckStep}
    (leads : levelAfter? level turns = some reached) :
    reached + turns.count .D = level + turns.count .U := by
  induction turns generalizing level with
  | nil =>
      cases leads
      rfl
  | cons turn rest ih =>
      rw [levelAfter?_cons, Option.bind_eq_some_iff] at leads
      obtain ⟨between, here, later⟩ := leads
      have balance := ih later
      cases turn with
      | U =>
          cases here
          rw [List.count_cons_self, List.count_cons_of_ne (by decide)]
          omega
      | D =>
          cases level with
          | zero => cases here
          | succ lower =>
              cases here
              rw [List.count_cons_self, List.count_cons_of_ne (by decide)]
              omega

/-- The balanced words are the turns that lead from the outermost level back to it. -/
theorem exists_dyckWord_iff {turns : List DyckStep} :
    (∃ word : DyckWord, word.toList = turns) ↔ levelAfter? 0 turns = some 0 := by
  constructor
  · rintro ⟨word, rfl⟩
    exact levelAfter?_dyckWord 0 word
  · intro leads
    have balance := count_of_levelAfter? leads
    refine ⟨⟨turns, by omega, fun length => ?_⟩, rfl⟩
    rw [← List.take_append_drop length turns, levelAfter?_append, Option.bind_eq_some_iff] at leads
    obtain ⟨between, front, _⟩ := leads
    have bound := count_of_levelAfter? front
    omega

namespace Command

mutual

/-- The turns of an operation between levels.  Those inside a block count, while entering and
leaving the block do not. -/
def turns : Command → List DyckStep
  | .increase => [.U]
  | .decrease => [.D]
  | .append _ | .appendLine _ | .clear => []
  | .block body _ => turnsAll body

/-- The turns of operations one after the other. -/
def turnsAll : List Command → List DyckStep
  | [] => []
  | command :: rest => turns command ++ turnsAll rest

end

mutual

/-- Whether an operation is a clearing or has one inside. -/
def clears : Command → Bool
  | .clear => true
  | .append _ | .appendLine _ | .increase | .decrease => false
  | .block body _ => clearsAny body

/-- Whether there is a clearing among operations. -/
def clearsAny : List Command → Bool
  | [] => false
  | command :: rest => clears command || clearsAny rest

end

/-- Whether operations go back as often as they go deeper, at no time more often, and never by a
clearing. -/
structure IsBalanced (body : List Command) : Prop where
  keeps : clearsAny body = false
  pairs : ∃ word : DyckWord, word.toList = turnsAll body

/-! ## Steps -/

/-- The steps of an operation: those inside it, and its own. -/
def stepsOf (writer : Writer) (command : Command) : List Step :=
  (run writer command).2.1 ++ [⟨(run writer command).1, (run writer command).2.2⟩]

theorem stepsOf_ne_nil (writer : Writer) (command : Command) : stepsOf writer command ≠ [] :=
  List.append_ne_nil_of_right_ne_nil _ (List.cons_ne_nil _ [])

theorem runAll_cons (writer : Writer) (command : Command) (rest : List Command) :
    runAll writer (command :: rest) =
      ((runAll (run writer command).1 rest).1,
        stepsOf writer command ++ (runAll (run writer command).1 rest).2) := by
  simp [runAll, stepsOf]

theorem run_decrease_of_zero {writer : Writer} (outermost : writer.level = 0) :
    run writer .decrease = (writer, [], some .levelBelowZero) := by
  rw [run, Writer.decrease_of_zero outermost]

theorem run_decrease_of_succ {writer : Writer} {level : Nat} (inside : writer.level = level + 1) :
    run writer .decrease = ({ writer with level }, [], none) := by
  rw [run, Writer.decrease_of_succ inside]

section

variable {writer : Writer} {body : List Command}

/-- Leaving a block is refused where there is no level left to leave. -/
theorem run_block_of_zero (outermost : (runAll writer.increase body).1.level = 0)
    (failure : Option Text) :
    run writer (.block body failure) =
      ((runAll writer.increase body).1, (runAll writer.increase body).2,
        some .levelBelowZero) := by
  simp only [run, Writer.decrease_of_zero outermost]

theorem run_block_of_succ {level : Nat}
    (inside : (runAll writer.increase body).1.level = level + 1) (failure : Option Text) :
    run writer (.block body failure) =
      ({ (runAll writer.increase body).1 with level }, (runAll writer.increase body).2,
        failure.map .failedBody) := by
  simp only [run, Writer.decrease_of_succ inside]

end

/-! ## Balanced blocks -/

/-- Whether no step is refused for want of a level. -/
def AreUnrefused (steps : List Step) : Prop :=
  ∀ step ∈ steps, step.refusal ≠ some .levelBelowZero

theorem areUnrefused_append {first second : List Step} :
    AreUnrefused (first ++ second) ↔ AreUnrefused first ∧ AreUnrefused second :=
  List.forall_mem_append

theorem areUnrefused_singleton {step : Step} :
    AreUnrefused [step] ↔ step.refusal ≠ some .levelBelowZero :=
  List.forall_mem_singleton

theorem areUnrefused_none (writer : Writer) : AreUnrefused [⟨writer, none⟩] :=
  areUnrefused_singleton.mpr (Option.some_ne_none _).symm

theorem map_failedBody_ne (failure : Option Text) :
    failure.map Writer.Refusal.failedBody ≠ some .levelBelowZero := by
  cases failure <;> simp

theorem areUnrefused_failure (writer : Writer) (failure : Option Text) :
    AreUnrefused [⟨writer, failure.map .failedBody⟩] :=
  areUnrefused_singleton.mpr (map_failedBody_ne failure)

mutual

/-- An operation leads where its turns lead, and nothing is refused on the way. -/
theorem level_run_of_turns (writer : Writer) {reached : Nat} :
    (command : Command) → clears command = false →
      levelAfter? writer.level (turns command) = some reached →
      (run writer command).1.level = reached ∧ AreUnrefused (stepsOf writer command)
  | .append text, _, leads =>
      ⟨(writer.level_append text).trans (Option.some.inj leads), areUnrefused_none _⟩
  | .appendLine text, _, leads =>
      ⟨(writer.level_append text).trans (Option.some.inj leads), areUnrefused_none _⟩
  | .increase, _, leads => ⟨Option.some.inj leads, areUnrefused_none _⟩
  | .decrease, _, leads => by
      cases outside : writer.level with
      | zero =>
          rw [outside] at leads
          cases leads
      | succ level =>
          rw [outside] at leads
          rw [stepsOf, run_decrease_of_succ outside]
          exact ⟨Option.some.inj leads, areUnrefused_none _⟩
  | .clear, keeps, _ => nomatch keeps
  | .block body failure, keeps, leads => by
      -- From one level deeper the body leads one level deeper, so that there is one to leave.
      obtain ⟨inside, unrefused⟩ :=
        level_runAll_of_turns writer.increase body keeps (levelAfter?_succ leads)
      rw [stepsOf, run_block_of_succ inside failure]
      exact ⟨rfl, areUnrefused_append.mpr ⟨unrefused, areUnrefused_failure _ failure⟩⟩

theorem level_runAll_of_turns (writer : Writer) {reached : Nat} :
    (commands : List Command) → clearsAny commands = false →
      levelAfter? writer.level (turnsAll commands) = some reached →
      (runAll writer commands).1.level = reached ∧ AreUnrefused (runAll writer commands).2
  | [], _, leads => ⟨Option.some.inj leads, fun _ none => absurd none List.not_mem_nil⟩
  | command :: rest, keeps, leads => by
      obtain ⟨keepsHere, keepsLater⟩ := Bool.or_eq_false_iff.mp keeps
      rw [turnsAll, levelAfter?_append, Option.bind_eq_some_iff] at leads
      obtain ⟨between, here, later⟩ := leads
      obtain ⟨level, unrefused⟩ := level_run_of_turns writer command keepsHere here
      rw [← level] at later
      obtain ⟨last, unrefusedLater⟩ :=
        level_runAll_of_turns (run writer command).1 rest keepsLater later
      rw [runAll_cons]
      exact ⟨last, areUnrefused_append.mpr ⟨unrefused, unrefusedLater⟩⟩

end

/-- A block with a balanced body is left at the level at which it was entered, and only the body
itself may fail. -/
theorem run_block_of_isBalanced (writer : Writer) {body : List Command} (balanced : IsBalanced body)
    (failure : Option Text) :
    (run writer (.block body failure)).1.level = writer.level ∧
      (run writer (.block body failure)).2.2 = failure.map .failedBody ∧
      AreUnrefused (run writer (.block body failure)).2.1 := by
  obtain ⟨word, pairs⟩ := balanced.pairs
  have leads := levelAfter?_dyckWord (writer.level + 1) word
  rw [pairs] at leads
  obtain ⟨inside, unrefused⟩ := level_runAll_of_turns writer.increase body balanced.keeps leads
  rw [run_block_of_succ inside failure]
  exact ⟨rfl, rfl, unrefused⟩

/-! ## Levels over the integers -/

/-- The level one back, for a counter that refuses to go back only where it stands at zero. -/
def back (level : Int) : Int :=
  if level = 0 then level else level - 1

mutual

/-- The levels that a counter over the integers shows inside an operation, and the level after
it. -/
def count (level : Int) : Command → List Int × Int
  | .append _ | .appendLine _ => ([], level)
  | .increase => ([], level + 1)
  | .decrease => ([], back level)
  | .clear => ([], 0)
  | .block body _ =>
      let (levels, inside) := countAll (level + 1) body
      (levels, back inside)

/-- The levels that a counter over the integers shows after each of several operations, and the
last of them. -/
def countAll (level : Int) : List Command → List Int × Int
  | [] => ([], level)
  | command :: rest =>
      let (inside, after) := count level command
      let (later, last) := countAll after rest
      (inside ++ after :: later, last)

end

/-- The levels that steps show. -/
def levelsOf (steps : List Step) : List Int :=
  steps.map (·.writer.level)

theorem back_succ (level : Nat) : back (level + 1 : Nat) = level := by
  rw [back, if_neg (by omega)]
  omega

mutual

/-- The counter shows the levels of the writer. -/
theorem count_level (writer : Writer) :
    (command : Command) →
      count writer.level command =
        (levelsOf (run writer command).2.1, ((run writer command).1.level : Int))
  | .append text => by rw [count, run, writer.level_append text]; rfl
  | .appendLine text => by
      have level : (writer.appendLine text).level = writer.level := writer.level_append text
      rw [count, run, level]
      rfl
  | .increase => rfl
  | .decrease => by
      cases outside : writer.level with
      | zero =>
          rw [run_decrease_of_zero outside, outside]
          rfl
      | succ level =>
          rw [run_decrease_of_succ outside, count, back_succ]
          rfl
  | .clear => rfl
  | .block body failure => by
      have entered : (writer.level : Int) + 1 = (writer.increase.level : Nat) := rfl
      rw [count, entered, countAll_level writer.increase body]
      cases inside : (runAll writer.increase body).1.level with
      | zero =>
          rw [run_block_of_zero inside, inside]
          rfl
      | succ level =>
          rw [run_block_of_succ inside failure]
          exact congrArg (Prod.mk _) (back_succ level)

theorem countAll_level (writer : Writer) :
    (commands : List Command) →
      countAll writer.level commands =
        (levelsOf (runAll writer commands).2, ((runAll writer commands).1.level : Int))
  | [] => rfl
  | command :: rest => by
      rw [countAll, count_level writer command]
      dsimp only
      rw [countAll_level (run writer command).1 rest, runAll_cons, stepsOf, levelsOf, levelsOf,
        levelsOf, List.map_append, List.map_append, List.append_assoc]
      rfl

end

/-! ## Refusals -/

/-- Steps from one writer to another one, of which each that is refused for want of a level leaves
the writer as it was, at the outermost level. -/
inductive KeepsRefused : Writer → List Step → Writer → Prop where
  | none (writer : Writer) : KeepsRefused writer [] writer
  | step {before last : Writer} {step : Step} {later : List Step} :
      (step.refusal = some .levelBelowZero → step.writer = before ∧ before.level = 0) →
      KeepsRefused step.writer later last → KeepsRefused before (step :: later) last

namespace KeepsRefused

theorem append {before between last : Writer} {steps later : List Step}
    (first : KeepsRefused before steps between) (second : KeepsRefused between later last) :
    KeepsRefused before (steps ++ later) last := by
  induction first with
  | none writer => exact second
  | step kept _ ih => exact .step kept (ih second)

/-- A step that is not refused. -/
theorem single {before after : Writer} {refusal : Option Writer.Refusal}
    (accepted : refusal ≠ some .levelBelowZero) : KeepsRefused before [⟨after, refusal⟩] after :=
  .step (fun refused => absurd refused accepted) (.none after)

/-- What follows on entering a block follows on what was before: the level inside is not the
outermost one, so that the first step is not refused. -/
theorem entered {writer last : Writer} {steps : List Step} (nonempty : steps ≠ [])
    (inside : KeepsRefused writer.increase steps last) : KeepsRefused writer steps last := by
  cases inside with
  | none => exact absurd rfl nonempty
  | step kept rest =>
      refine .step (fun refused => ?_) rest
      exact absurd (kept refused).2 (Nat.succ_ne_zero writer.level)

theorem isChain {before last : Writer} {steps : List Step}
    (keeps : KeepsRefused before steps last) (start : Step) (same : start.writer = before) :
    (start :: steps).IsChain fun before after =>
      after.refusal = some .levelBelowZero →
        after.writer = before.writer ∧ before.writer.level = 0 := by
  induction keeps generalizing start with
  | none writer => exact .singleton _
  | step kept _ ih =>
      subst same
      exact .cons_cons kept (ih _ rfl)

end KeepsRefused

mutual

theorem keepsRefused_run (writer : Writer) :
    (command : Command) → KeepsRefused writer (stepsOf writer command) (run writer command).1
  | .append _ | .appendLine _ | .increase | .clear => .single (Option.some_ne_none _).symm
  | .decrease => by
      cases outside : writer.level with
      | zero =>
          rw [stepsOf, run_decrease_of_zero outside]
          exact .step (fun _ => ⟨rfl, outside⟩) (.none writer)
      | succ level =>
          rw [stepsOf, run_decrease_of_succ outside]
          exact .single (Option.some_ne_none _).symm
  | .block body failure => by
      have inside := keepsRefused_runAll writer.increase body
      apply KeepsRefused.entered (stepsOf_ne_nil writer _)
      cases outermost : (runAll writer.increase body).1.level with
      | zero =>
          rw [stepsOf, run_block_of_zero outermost]
          exact inside.append (.step (fun _ => ⟨rfl, outermost⟩) (.none _))
      | succ level =>
          rw [stepsOf, run_block_of_succ outermost]
          exact inside.append (.single (map_failedBody_ne failure))

theorem keepsRefused_runAll (writer : Writer) :
    (commands : List Command) →
      KeepsRefused writer (runAll writer commands).2 (runAll writer commands).1
  | [] => .none writer
  | command :: rest => by
      have here := keepsRefused_run writer command
      have later := keepsRefused_runAll (run writer command).1 rest
      rw [runAll_cons]
      exact here.append later

end

/-- Levels are kept like a stack.  A block with a balanced body is left at the level at which it was
entered, whether the body fails in the end or not, and nothing but the body fails.  In any run, the
levels are those of a counter over the integers and never negative, and a refused operation leaves
the writer as the step before has shown it, which is at the outermost level. -/
theorem level_of_runAll (writer : Writer) :
    (∀ body failure, IsBalanced body →
      let (left, inside, refusal) := run writer (.block body failure)
      left.level = writer.level ∧ refusal = failure.map .failedBody ∧ AreUnrefused inside) ∧
    ∀ commands,
      let (last, steps) := runAll writer commands
      countAll writer.level commands = (levelsOf steps, (last.level : Int)) ∧
      (∀ level ∈ (countAll writer.level commands).1, 0 ≤ level) ∧
      (⟨writer, none⟩ :: steps).IsChain fun before after =>
        after.refusal = some .levelBelowZero →
          after.writer = before.writer ∧ before.writer.level = 0 := by
  constructor
  · intro body failure balanced
    exact run_block_of_isBalanced writer balanced failure
  · intro commands
    have counted := countAll_level writer commands
    refine ⟨counted, ?_, (keepsRefused_runAll writer commands).isChain ⟨writer, none⟩ rfl⟩
    rw [counted]
    intro level shown
    obtain ⟨step, _, rfl⟩ := List.mem_map.mp shown
    exact Int.natCast_nonneg step.writer.level

/-- A body that goes deeper, fails inside a block there, comes back and fails itself is left at the
level at which it was entered. -/
theorem level_of_runAll_nested :
    IsBalanced [.appendLine "class", .increase,
        .block [.increase, .append "id", .decrease] (some "boom"), .decrease] ∧
      (run { level := 2 } (.block [.appendLine "class", .increase,
        .block [.increase, .append "id", .decrease] (some "boom"), .decrease]
        (some "crash"))).1.level = 2 :=
  have balanced : IsBalanced [.appendLine "class", .increase,
      .block [.increase, .append "id", .decrease] (some "boom"), .decrease] :=
    ⟨rfl, exists_dyckWord_iff.mpr rfl⟩
  ⟨balanced, ((level_of_runAll { level := 2 }).1 _ (some "crash") balanced).1⟩

/-- The turns inside a block count.  The body of the outer block has none by itself, yet the one in
the inner block leaves it no level to leave. -/
example :
    (run {} (.block [.block [.decrease] none] none)).2.2 = some .levelBelowZero := by
  cbv

end Command

end EntityForge.Layout
