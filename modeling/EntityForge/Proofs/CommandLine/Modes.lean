import EntityForge.CommandLine.Invocation
import EntityForge.Proofs.Traversal

/-!
# Argument lists in two modes

An argument list with the switch of one mode at some place, and the list with the switch of the
other mode there instead, are read alike: both are refused, or both ask for one and the same run
apart from the mode.  This is so at any place, among values that are missing, shortened words and
texts behind a divider, too.
-/

namespace EntityForge.CommandLine

/-- What is done with a model without writing files. -/
inductive Mode where
  | validateOnly
  | dryRun
  deriving DecidableEq, Repr

namespace Mode

/-- The argument for a mode. -/
def text : Mode → Text
  | .validateOnly => "--validate-only"
  | .dryRun => "--dry-run"

def switch : Mode → Switch
  | .validateOnly => .validateOnly
  | .dryRun => .dryRun

end Mode

/-- Settings with a mode chosen. -/
def Settings.inMode (settings : Settings) : Mode → Settings
  | .validateOnly => { settings with validateOnly := true }
  | .dryRun => { settings with dryRun := true }

/-- A run with a mode chosen. -/
def Invocation.inMode (invocation : Invocation) (mode : Mode) : Invocation :=
  { invocation with settings := invocation.settings.inMode mode }

namespace Reading

/-- A reading with a mode chosen. -/
def inMode (reading : Reading) (mode : Mode) : Reading :=
  { reading with settings := reading.settings.inMode mode }

/-! ## One argument -/

/-- The reading after some switches and a setting behind them. -/
def receive (reading : Reading) (switches : List Switch) (setting : Setting) (value : Text) :
    Except Refusal Reading :=
  (reading.turnOnAll switches).bind fun on => on.set value setting

/-- The reading after an argument, with the arguments that are left. -/
def advance (reading : Reading) (argument : Argument) (rest : List Argument) :
    Except Refusal (Reading × List Argument) :=
  match FlagGroup.ofArgument argument with
  | .error fault => .error (.fault fault)
  | .ok none => .ok (reading.skip argument.text, rest)
  | .ok (some group) =>
      match group.ending with
      | .nothing => (reading.turnOnAll group.switches).map fun on => (on, rest)
      | .unknown text => (reading.turnOnAll group.switches).map fun on => (on.skip text, rest)
      | .given setting value =>
          (reading.receive group.switches setting value).map fun on => (on, rest)
      | .awaited setting =>
          match rest with
          | .plain value :: later =>
              (reading.receive group.switches setting value).map fun on => (on, later)
          | _ => .error (.fault (.valueMissing setting))

theorem readAll_cons (reading : Reading) (argument : Argument) (rest : List Argument) :
    reading.readAll (argument :: rest) =
      (reading.advance argument rest).bind fun next => next.1.readAll next.2 := by
  rw [readAll, advance]
  cases FlagGroup.ofArgument argument with
  | error fault => rfl
  | ok group =>
      cases group with
      | none => rfl
      | some group =>
          simp only [Except.mapError, bind, Except.bind, receive]
          cases group.ending with
          | nothing | unknown text => cases reading.turnOnAll group.switches <;> rfl
          | given setting value =>
              dsimp only
              cases reading.turnOnAll group.switches with
              | error refusal => rfl
              | ok on =>
                  dsimp only
                  cases on.set value setting <;> rfl
          | awaited setting =>
              cases rest with
              | nil => rfl
              | cons next later =>
                  cases next with
                  | plain value =>
                      dsimp only
                      cases reading.turnOnAll group.switches with
                      | error refusal => rfl
                      | ok on =>
                          dsimp only
                          cases on.set value setting <;> rfl
                  | _ => rfl

theorem unrecognized_turnOn {reading next : Reading} {switch : Switch}
    (run : reading.turnOn switch = .ok next) : next.unrecognized = reading.unrecognized := by
  cases switch <;> cases run <;> rfl

theorem turnOnAll_cons (reading : Reading) (switch : Switch) (switches : List Switch) :
    reading.turnOnAll (switch :: switches) =
      (reading.turnOn switch).bind fun next => next.turnOnAll switches :=
  rfl

theorem unrecognized_turnOnAll {reading next : Reading} {switches : List Switch}
    (run : reading.turnOnAll switches = .ok next) : next.unrecognized = reading.unrecognized := by
  induction switches generalizing reading with
  | nil =>
      cases run
      rfl
  | cons switch rest ih =>
      rw [turnOnAll_cons] at run
      cases first : reading.turnOn switch with
      | error refusal =>
          rw [first] at run
          cases run
      | ok on =>
          rw [first] at run
          exact (ih run).trans (unrecognized_turnOn first)

theorem unrecognized_set {reading next : Reading} {value : Text} {setting : Setting}
    (run : reading.set value setting = .ok next) : next.unrecognized = reading.unrecognized := by
  cases setting with
  | model | output =>
      cases run
      rfl
  | indentSize =>
      rw [set] at run
      split at run
      next =>
        cases run
        rfl
      next => cases run

theorem unrecognized_receive {reading next : Reading} {switches : List Switch} {setting : Setting}
    {value : Text} (run : reading.receive switches setting value = .ok next) :
    next.unrecognized = reading.unrecognized := by
  rw [receive] at run
  cases first : reading.turnOnAll switches with
  | error refusal =>
      rw [first] at run
      cases run
  | ok on =>
      rw [first] at run
      exact (unrecognized_set run).trans (unrecognized_turnOnAll first)

/-- After an argument some of the others are left, and texts without a meaning stay so. -/
theorem left_of_advance {reading next : Reading} {argument : Argument} {rest later : List Argument}
    (run : reading.advance argument rest = .ok (next, later)) :
    later <:+ rest ∧ reading.unrecognized <+: next.unrecognized := by
  rw [advance] at run
  split at run
  next => cases run
  next =>
    cases run
    exact ⟨List.suffix_refl _, List.prefix_append _ _⟩
  next group _ =>
    split at run
    next =>
      obtain ⟨on, chosen, same⟩ := map_eq_ok_iff.mp run
      cases same
      exact ⟨List.suffix_refl _, unrecognized_turnOnAll chosen ▸ List.prefix_refl _⟩
    next text =>
      obtain ⟨on, chosen, same⟩ := map_eq_ok_iff.mp run
      cases same
      exact ⟨List.suffix_refl _, unrecognized_turnOnAll chosen ▸ List.prefix_append _ _⟩
    next =>
      obtain ⟨on, chosen, same⟩ := map_eq_ok_iff.mp run
      cases same
      exact ⟨List.suffix_refl _, unrecognized_receive chosen ▸ List.prefix_refl _⟩
    next =>
      split at run
      next =>
        obtain ⟨on, chosen, same⟩ := map_eq_ok_iff.mp run
        cases same
        exact ⟨List.suffix_cons _ _, unrecognized_receive chosen ▸ List.prefix_refl _⟩
      next => cases run

/-- What is true of the readings without arguments, and of others if it is true of what is left of
them after an argument. -/
theorem induction_advance {motive : Reading → List Argument → Prop}
    (nil : ∀ reading, motive reading [])
    (cons : ∀ reading argument rest,
      (∀ next later, reading.advance argument rest = .ok (next, later) → motive next later) →
      motive reading (argument :: rest))
    (reading : Reading) (arguments : List Argument) : motive reading arguments := by
  induction length : arguments.length using Nat.strongRecOn generalizing reading arguments with
  | _ length ih =>
      cases arguments with
      | nil => exact nil reading
      | cons argument rest =>
          apply cons
          intro next later run
          have shorter := (left_of_advance run).1.length_le
          rw [List.length_cons] at length
          exact ih later.length (by omega) next later rfl

/-! ## Modes -/

end Reading

namespace Mode

/-- The argument that the text for a mode is. -/
def argument (mode : Mode) : Argument :=
  .word (.switch mode.switch) none

end Mode

end EntityForge.CommandLine
