import EntityForge.CommandLine.Argument
import EntityForge.CommandLine.Help
import EntityForge.Generation.Report
import EntityForge.Log

/-!
# Outcomes

What a run of the program leaves behind for its user: what it prints, what it tells beside that,
and an exit code that says how it went.
-/

namespace EntityForge.CommandLine

/-- How a run went. -/
inductive Exit where
  | success
  | validationError
  | generationError
  | exportError
  | inputError
  /-- The arguments make no sense. -/
  | usageError
  deriving BEq, DecidableEq, Repr

/-- The exit code. -/
def Exit.code : Exit → Nat
  | .success => 0
  | .validationError => 1
  | .generationError | .usageError => 2
  | .exportError => 3
  | .inputError => 4

/-- Something told beside the output. -/
inductive Notice where
  | entry (entry : LogEntry)
  | report (report : GenerationReport)
  | usage
  | fault (fault : UsageFault)

/-- The wording of a notice. -/
def Notice.text : Notice → Text
  | .entry logged => logged.line
  | .report made => made.summary
  | .usage => CommandLine.usage
  | .fault found => programName ++ ": error: " ++ found.message

/-- What a run leaves behind. -/
structure Outcome where
  exit : Exit
  /-- The lines of the output, each of which may have line feeds inside. -/
  output : List Text := []
  notices : List Notice := []

/-- The entries of a log that are shown. -/
def shown (least : LogLevel) (log : List LogEntry) : List Notice :=
  (log.filter fun entry => least.rank ≤ entry.level.rank).map .entry

/-- The outcome of a run with some entries shown before its notices. -/
def Outcome.after (least : LogLevel) (log : List LogEntry) (outcome : Outcome) : Outcome :=
  { outcome with notices := shown least log ++ outcome.notices }

end EntityForge.CommandLine
