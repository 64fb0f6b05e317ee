import EntityForge.Data.Display
import EntityForge.Data.Keys

/-!
# Diagnostics

What a validation has to say: errors, which forbid generation, and warnings.  A collection of
diagnostics keeps their order and is valid when none of them is an error.
-/

namespace EntityForge

/-- How grave a diagnostic is. -/
inductive Severity where
  | error
  | warning
  deriving BEq, DecidableEq, Repr

/-- The name of a severity. -/
def Severity.name : Severity → Text
  | .error => "error"
  | .warning => "warning"

/-- The name of a severity as a label. -/
def Severity.label : Severity → Text
  | .error => "ERROR"
  | .warning => "WARNING"

/-- The sign before a diagnostic in a report. -/
def Severity.sign : Severity → Text
  | .error => "✗"
  | .warning => "⚠"

/-- One finding of a validation.  The context names the parts of the model that it is about. -/
structure Diagnostic where
  severity : Severity
  code : Text
  message : Text
  context : List (Data × Data) := []

namespace Diagnostic

def isError (diagnostic : Diagnostic) : Bool :=
  diagnostic.severity == .error

def isWarning (diagnostic : Diagnostic) : Bool :=
  diagnostic.severity == .warning

/-- The diagnostic in one line. -/
def describe (diagnostic : Diagnostic) : Text :=
  "[" ++ diagnostic.severity.label ++ "] " ++ diagnostic.code ++ ": " ++ diagnostic.message

/-- The lines of the diagnostic in a report: the message, then the context. -/
def reportLines (diagnostic : Diagnostic) : List Text :=
  ("  " ++ diagnostic.severity.sign ++ " [" ++ diagnostic.code ++ "] " ++ diagnostic.message) ::
    diagnostic.context.map fun entry => "       " ++ entry.1.display ++ ": " ++ entry.2.display

end Diagnostic

/-- Diagnostics in the order in which they were found. -/
structure Diagnostics where
  items : List Diagnostic := []

namespace Diagnostics

def add (diagnostics : Diagnostics) (item : Diagnostic) : Diagnostics :=
  ⟨diagnostics.items ++ [item]⟩

/-- All diagnostics of the first collection, then those of the second. -/
def merge (diagnostics more : Diagnostics) : Diagnostics :=
  ⟨diagnostics.items ++ more.items⟩

def errors (diagnostics : Diagnostics) : List Diagnostic :=
  diagnostics.items.filter Diagnostic.isError

def warnings (diagnostics : Diagnostics) : List Diagnostic :=
  diagnostics.items.filter Diagnostic.isWarning

/-- Whether there is no error. -/
def isValid (diagnostics : Diagnostics) : Bool :=
  diagnostics.errors.isEmpty

/-- The codes that occur, each once and in increasing order. -/
def codes (diagnostics : Diagnostics) : List Text :=
  (diagnostics.items.map (·.code)).eraseDups.mergeSort (· ≤ ·)

/-- The counts in one line. -/
def summary (diagnostics : Diagnostics) : Text :=
  s!"Validation: {diagnostics.errors.length} error(s), " ++
    s!"{diagnostics.warnings.length} warning(s), {diagnostics.items.length} total item(s)."

def describe (diagnostics : Diagnostics) : Text :=
  "<ValidationResult " ++ diagnostics.summary ++ ">"

/-- The summary, a blank line and the lines of every diagnostic. -/
def report (diagnostics : Diagnostics) : Text :=
  Text.intercalate "\n"
    (diagnostics.summary :: "" :: diagnostics.items.flatMap Diagnostic.reportLines)

end Diagnostics

end EntityForge
