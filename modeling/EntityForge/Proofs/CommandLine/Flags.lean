import EntityForge.Proofs.CommandLine.Modes

/-!
# What flags ask for

A switch is on after a list of arguments exactly if one of them turns it on, wherever it stands and
however it is shortened or grouped with others.  Of several sizes of an indentation the last one
counts.
-/

namespace EntityForge.CommandLine

/-! ## Arguments and what they give -/

namespace Argument

/-- The switches of an argument. -/
def switches (argument : Argument) : List Switch :=
  match FlagGroup.ofArgument argument with
  | .ok (some group) => group.switches
  | _ => []

/-- The setting that an argument gives a value to, if any.  The value may be the argument behind
it. -/
def given? (argument : Argument) (rest : List Argument) : Option (Setting × Text) :=
  match FlagGroup.ofArgument argument with
  | .ok (some group) =>
      match group.ending, rest with
      | .given setting value, _ => some (setting, value)
      | .awaited setting, .plain value :: _ => some (setting, value)
      | _, _ => none
  | _ => none

end Argument

/-- Whether one of several arguments turns a switch on. -/
def Switch.IsGiven (switch : Switch) (arguments : List Argument) : Prop :=
  ∃ argument ∈ arguments, switch ∈ argument.switches

instance (switch : Switch) (arguments : List Argument) : Decidable (switch.IsGiven arguments) :=
  decidable_of_iff
    (arguments.any fun argument => argument.switches.any fun turned => decide (turned = switch))
    (by simp [Switch.IsGiven])

/-- The last value that arguments give to a setting, if any. -/
def Setting.lastValue? (setting : Setting) : List Argument → Option Text
  | [] => none
  | argument :: rest =>
      (setting.lastValue? rest).or
        (((argument.given? rest).filter fun given => given.1 == setting).map Prod.snd)

theorem Switch.isGiven_cons {switch : Switch} {argument : Argument} {rest : List Argument} :
    switch.IsGiven (argument :: rest) ↔ switch ∈ argument.switches ∨ switch.IsGiven rest :=
  List.exists_mem_cons_iff ..

/-- A plain argument turns nothing on. -/
theorem Switch.isGiven_plain_cons {switch : Switch} {text : Text} {rest : List Argument} :
    switch.IsGiven (.plain text :: rest) ↔ switch.IsGiven rest :=
  isGiven_cons.trans (or_iff_right List.not_mem_nil)

/-- A plain argument gives no value by itself. -/
theorem Setting.lastValue?_plain_cons (setting : Setting) (text : Text)
    (rest : List Argument) :
    setting.lastValue? (.plain text :: rest) = setting.lastValue? rest :=
  Option.or_none

/-- Whether a switch is on. -/
def Settings.isOn (settings : Settings) : Switch → Bool
  | .help | .version => false
  | .validateOnly => settings.validateOnly
  | .dryRun => settings.dryRun
  | .document => settings.document
  | .nullable => settings.nullable
  | .fileScopedNamespace => settings.fileScopedNamespace
  | .strict => settings.strict
  | .failOnWarnings => settings.failOnWarnings
  | .verbose => settings.verbosity != 0
  | .quiet => settings.quiet

/-- Whether one size becomes another through a value, if there is one. -/
def ResizesTo (value? : Option Text) (old new : Option Int) : Prop :=
  match value? with
  | some value => ∃ number, Decimal.wholeNumber 10 value = .ok number ∧ new = some number
  | none => new = old

theorem ResizesTo.trans {first? second? : Option Text} {old middle new : Option Int}
    (first : ResizesTo first? old middle) (second : ResizesTo second? middle new) :
    ResizesTo (second?.or first?) old new := by
  cases second? with
  | some value => exact second
  | none =>
      cases second
      exact first

namespace Reading

variable {reading next : Reading} {setting : Setting} {value : Text}

/-! ## One argument -/

/-- An argument turns its switches on, and then gives a value or none. -/
theorem of_advance {argument : Argument} {rest later : List Argument}
    (run : reading.advance argument rest = .ok (next, later)) :
    ∃ on, reading.turnOnAll argument.switches = .ok on ∧
      ((argument.given? rest = none ∧ next.settings = on.settings ∧ later = rest) ∨
        ∃ setting value, argument.given? rest = some (setting, value) ∧
          on.set value setting = .ok next ∧ (later = rest ∨ rest = .plain value :: later)) := by
  rw [advance] at run
  rw [Argument.switches, Argument.given?]
  split at run
  next => cases run
  next none =>
    cases run
    rw [none]
    exact ⟨reading, rfl, .inl ⟨rfl, rfl, rfl⟩⟩
  next group found =>
    rw [found]
    dsimp only
    split at run
    next ending =>
      obtain ⟨on, chosen, same⟩ := map_eq_ok_iff.mp run
      cases same
      rw [ending]
      exact ⟨_, chosen, .inl ⟨rfl, rfl, rfl⟩⟩
    next text ending =>
      obtain ⟨on, chosen, same⟩ := map_eq_ok_iff.mp run
      cases same
      rw [ending]
      exact ⟨on, chosen, .inl ⟨rfl, rfl, rfl⟩⟩
    next setting value ending =>
      obtain ⟨_, received, same⟩ := map_eq_ok_iff.mp run
      cases same
      obtain ⟨on, chosen, given⟩ := except_bind_eq_ok_iff.mp received
      rw [ending]
      exact ⟨on, chosen, .inr ⟨setting, value, rfl, given, .inl rfl⟩⟩
    next setting ending =>
      split at run
      next value _ =>
        obtain ⟨_, received, same⟩ := map_eq_ok_iff.mp run
        cases same
        obtain ⟨on, chosen, given⟩ := except_bind_eq_ok_iff.mp received
        rw [ending]
        exact ⟨on, chosen, .inr ⟨setting, value, rfl, given, .inr rfl⟩⟩
      next => cases run

theorem isOn_turnOn_iff {switch other : Switch} (run : reading.turnOn switch = .ok next) :
    next.settings.isOn other = true ↔ reading.settings.isOn other = true ∨ other = switch := by
  cases switch <;> cases run <;> cases other <;> simp [Settings.isOn]

theorem isOn_turnOnAll_iff {switches : List Switch} {other : Switch}
    (run : reading.turnOnAll switches = .ok next) :
    next.settings.isOn other = true ↔
      reading.settings.isOn other = true ∨ other ∈ switches := by
  induction switches generalizing reading with
  | nil =>
      cases run
      simp
  | cons switch rest ih =>
      obtain ⟨on, first, others⟩ := except_bind_eq_ok_iff.mp ((turnOnAll_cons ..).symm.trans run)
      rw [ih others, isOn_turnOn_iff first, List.mem_cons, or_assoc]

theorem isOn_set (run : reading.set value setting = .ok next) (switch : Switch) :
    next.settings.isOn switch = reading.settings.isOn switch := by
  cases setting with
  | model | output =>
      cases run
      cases switch <;> rfl
  | indentSize =>
      rw [set] at run
      split at run
      next =>
        cases run
        cases switch <;> rfl
      next => cases run

theorem indentSize_turnOnAll {switches : List Switch}
    (run : reading.turnOnAll switches = .ok next) :
    next.settings.indentSize = reading.settings.indentSize := by
  induction switches generalizing reading with
  | nil =>
      cases run
      rfl
  | cons switch rest ih =>
      obtain ⟨on, first, others⟩ := except_bind_eq_ok_iff.mp ((turnOnAll_cons ..).symm.trans run)
      refine (ih others).trans ?_
      cases switch <;> cases first <;> rfl

/-- Only a value for the size changes the size. -/
theorem resizesTo_set (run : reading.set value setting = .ok next) :
    ResizesTo (((some (setting, value)).filter fun given => given.1 == .indentSize).map Prod.snd)
      reading.settings.indentSize next.settings.indentSize := by
  cases setting with
  | model | output =>
      cases run
      rfl
  | indentSize =>
      rw [set] at run
      split at run
      next number read =>
        cases run
        exact ⟨number, read, rfl⟩
      next => cases run

/-- What an argument asks for is there after it, and what is left asks for the rest. -/
theorem isOn_advance_iff {argument : Argument} {rest later : List Argument} {switch : Switch}
    (run : reading.advance argument rest = .ok (next, later)) :
    (next.settings.isOn switch = true ∨ switch.IsGiven later) ↔
      reading.settings.isOn switch = true ∨ switch.IsGiven (argument :: rest) := by
  obtain ⟨on, chosen, step⟩ := of_advance run
  rw [Switch.isGiven_cons, ← or_assoc, ← isOn_turnOnAll_iff chosen]
  rcases step with ⟨_, same, rfl⟩ | ⟨setting, value, _, given, left⟩
  · rw [same]
  · rw [isOn_set given]
    rcases left with rfl | rfl
    · rfl
    · rw [Switch.isGiven_plain_cons]

theorem resizesTo_advance {argument : Argument} {rest later : List Argument} {size : Option Int}
    (run : reading.advance argument rest = .ok (next, later))
    (resized : ResizesTo (Setting.indentSize.lastValue? later) next.settings.indentSize size) :
    ResizesTo (Setting.indentSize.lastValue? (argument :: rest)) reading.settings.indentSize
      size := by
  obtain ⟨on, chosen, step⟩ := of_advance run
  rw [← indentSize_turnOnAll chosen, Setting.lastValue?]
  rcases step with ⟨none, same, rfl⟩ | ⟨setting, value, found, given, left⟩
  · rw [none, ← same]
    exact .trans rfl resized
  · have kept : Setting.indentSize.lastValue? rest = Setting.indentSize.lastValue? later := by
      rcases left with rfl | rfl
      · rfl
      · exact Setting.lastValue?_plain_cons ..
    rw [found, kept]
    exact (resizesTo_set given).trans resized

/-! ## All arguments -/

theorem settings_finish {invocation : Invocation} (run : reading.finish = .ok invocation) :
    invocation.settings = reading.settings := by
  rw [finish] at run
  split at run
  next => cases run
  next =>
    split at run
    next =>
      cases run
      rfl
    next => cases run

theorem isOn_readAll_iff {arguments : List Argument} {invocation : Invocation} {switch : Switch}
    (run : reading.readAll arguments = .ok invocation) :
    invocation.settings.isOn switch = true ↔
      reading.settings.isOn switch = true ∨ switch.IsGiven arguments := by
  induction reading, arguments using induction_advance with
  | nil reading => simp [settings_finish run, Switch.IsGiven]
  | cons reading argument rest ih =>
      obtain ⟨⟨next, later⟩, step, others⟩ :=
        except_bind_eq_ok_iff.mp ((readAll_cons ..).symm.trans run)
      exact (ih next later step others).trans (isOn_advance_iff step)

theorem resizesTo_readAll {arguments : List Argument} {invocation : Invocation}
    (run : reading.readAll arguments = .ok invocation) :
    ResizesTo (Setting.indentSize.lastValue? arguments) reading.settings.indentSize
      invocation.settings.indentSize := by
  induction reading, arguments using induction_advance with
  | nil reading => exact congrArg Settings.indentSize (settings_finish run)
  | cons reading argument rest ih =>
      obtain ⟨⟨next, later⟩, step, others⟩ :=
        except_bind_eq_ok_iff.mp ((readAll_cons ..).symm.trans run)
      exact resizesTo_advance step (ih next later step others)

end Reading

namespace Invocation

variable {texts : List Text} {arguments : List Argument} {invocation : Invocation}

theorem read_eq_of_ofTexts (split : Argument.ofTexts texts = .ok arguments) :
    Invocation.read texts = Reading.readAll {} arguments := by
  rw [Invocation.read, split]
  rfl

/-- A switch is on exactly if it was given. -/
theorem isOn_iff (split : Argument.ofTexts texts = .ok arguments)
    (asked : Invocation.read texts = .ok invocation) (switch : Switch) :
    invocation.settings.isOn switch = true ↔ switch.IsGiven arguments := by
  have off : ({} : Settings).isOn switch = false := by cases switch <;> rfl
  rw [Reading.isOn_readAll_iff ((read_eq_of_ofTexts split).symm.trans asked), off]
  simp

/-- The size is the last one that was given, if any. -/
theorem resizesTo (split : Argument.ofTexts texts = .ok arguments)
    (asked : Invocation.read texts = .ok invocation) :
    ResizesTo (Setting.indentSize.lastValue? arguments) none invocation.settings.indentSize :=
  Reading.resizesTo_readAll ((read_eq_of_ofTexts split).symm.trans asked)

end Invocation

end EntityForge.CommandLine
