import EntityForge.Text.Basic

/-!
# Log entries

What a run has to say besides its result.  Whether an entry is shown depends on how talkative the
run is.
-/

namespace EntityForge

/-- How important a log entry is, the least important first. -/
inductive LogLevel where
  | info
  | warning
  | error
  deriving BEq, DecidableEq, Repr

/-- The name of a level. -/
def LogLevel.name : LogLevel → Text
  | .info => "INFO"
  | .warning => "WARNING"
  | .error => "ERROR"

/-- The rank of a level. -/
def LogLevel.rank : LogLevel → Nat
  | .info => 1
  | .warning => 2
  | .error => 3

/-- The part of the program that writes an entry. -/
inductive LogSource where
  | program
  | generator
  | validators
  | files
  deriving BEq, DecidableEq, Repr

/-- The name of a source. -/
def LogSource.name : LogSource → Text
  | .program => "entitygen"
  | .generator => "entitygen.generator"
  | .validators => "entitygen.validators"
  | .files => "entitygen.utils"

/-- An entry of the log. -/
structure LogEntry where
  level : LogLevel
  source : LogSource
  text : Text
  deriving BEq, DecidableEq, Repr

/-- An entry as it is shown, in columns. -/
def LogEntry.line (entry : LogEntry) : Text :=
  let padding := Text.ofList (List.replicate (8 - entry.level.name.length) ' ')
  ("│ " ++ entry.level.name ++ padding ++ " │ " ++ entry.source.name ++ " │ " ++ entry.text)

end EntityForge
