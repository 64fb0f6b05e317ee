import EntityForge.CommandLine.Argument

/-!
# Flag groups

What one argument sets: any number of switches, and at its end perhaps a setting.
-/

namespace EntityForge.CommandLine

/-- What stands behind the switches of an argument. -/
inductive GroupEnd where
  | nothing
  | given (setting : Setting) (value : Text)
  /-- The value is the next argument. -/
  | awaited (setting : Setting)
  /-- Letters that are no flags. -/
  | unknown (text : Text)
  deriving BEq, DecidableEq, Repr

/-- The flags of an argument. -/
structure FlagGroup where
  switches : List Switch := []
  ending : GroupEnd := .nothing
  deriving BEq, DecidableEq, Repr

namespace FlagGroup

/-- Reads a flag and the characters behind its letter: a value for a setting, more letters after a
switch.  An equals sign sets a value off. -/
def ofLetters : Flag → List Point → Except UsageFault FlagGroup
  | .setting setting, [] => .ok ⟨[], .awaited setting⟩
  | .setting setting, first :: rest =>
      let value := if first = '=' then rest else first :: rest
      .ok ⟨[], .given setting (Text.ofList value)⟩
  | .switch switch, [] => .ok ⟨[switch], .nothing⟩
  | .switch switch, letter :: rest =>
      if letter = '=' then
        .error (.valueRefused switch (Text.ofList rest))
      else if letter = '-' then
        .error (.valueRefused switch (Text.ofList (letter :: rest)))
      else
        match Flag.ofLetter? letter with
        | none => .ok ⟨[switch], .unknown (Text.ofList ('-' :: letter :: rest))⟩
        | some next => do
            let group ← ofLetters next rest
            return ⟨switch :: group.switches, group.ending⟩

/-- Reads a flag and the value behind its word. -/
def ofWord : Flag → Option Text → Except UsageFault FlagGroup
  | .setting setting, none => .ok ⟨[], .awaited setting⟩
  | .setting setting, some value => .ok ⟨[], .given setting value⟩
  | .switch switch, none => .ok ⟨[switch], .nothing⟩
  | .switch switch, some value => .error (.valueRefused switch value)

/-- Reads the flags of an argument.  Other arguments have none. -/
def ofArgument : Argument → Except UsageFault (Option FlagGroup)
  | .letters flag rest => (ofLetters flag rest).map some
  | .word flag value => (ofWord flag value).map some
  | _ => .ok none

end FlagGroup

end EntityForge.CommandLine
