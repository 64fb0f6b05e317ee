import EntityForge.Decimal.Fixed
import EntityForge.Text.Basic

/-!
# Generation reports

What a run of the generator did: its steps, its errors, and the files that it generated.
-/

namespace EntityForge

/-- A step of a run. -/
structure GenerationStep where
  name : Text
  success : Bool
  /-- The duration in seconds. -/
  elapsed : Float := 0
  detail : Text

/-- The report on a run. -/
structure GenerationReport where
  success : Bool := false
  /-- Empty when nothing is to be written. -/
  outputDirectory : Text := ""
  dryRun : Bool := false
  totalFiles : Int := 0
  totalBytes : Int := 0
  totalLines : Int := 0
  totalEntities : Int := 0
  totalElapsed : Float := 0
  /-- The generated files in the order of their entities. -/
  files : List (Text × Text) := []
  steps : List GenerationStep := []
  validationErrors : List Text := []
  validationWarnings : List Text := []
  generationErrors : List Text := []
  exportErrors : List Text := []
  failedEntities : List Text := []

/-- A rule of a character across a report. -/
def rule (character : Point) (width : Nat) : Text :=
  Text.ofList (List.replicate width character)

/-- A text with spaces up to a width behind it. -/
def padEnd (width : Nat) (text : Text) : Text :=
  text ++ rule ' ' (width - text.length)

/-- A text with spaces up to a width in front of it. -/
def padStart (width : Nat) (text : Text) : Text :=
  rule ' ' (width - text.length) ++ text

namespace GenerationStep

/-- The sign of a step's outcome. -/
def sign (step : GenerationStep) : Text :=
  if step.success then "✓" else "✗"

/-- The step in columns. -/
def line (step : GenerationStep) : Text :=
  "    " ++ step.sign ++ " " ++ padEnd 24 step.name ++ " " ++
    padStart 7 (Decimal.fixed 3 step.elapsed) ++ "s  " ++ step.detail

end GenerationStep

namespace GenerationReport

/-- The width of the rules across a summary. -/
def width : Nat := 60

/-- The lines of a section, none if it has no items. -/
def sectionLines (title sign : Text) (items : List Text) : List Text :=
  if items.isEmpty then []
  else
    rule '─' width :: ("  " ++ title ++ s!" ({items.length}):") ::
      items.map fun item => "    " ++ sign ++ " " ++ item

/-- The report in a form for people. -/
def summary (report : GenerationReport) : Text :=
  let status := if report.success then "SUCCESS" else "FAILED"
  let output := if report.outputDirectory.isEmpty then ("-" : Text) else report.outputDirectory
  let lines : List Text :=
    [ rule '=' width,
      "  entitygen — Generation Report",
      rule '=' width,
      "  Status:             " ++ status,
      "  Output:             " ++ output,
      s!"  Entities processed: {report.totalEntities}",
      s!"  Files generated:    {report.totalFiles}",
      "  Total lines:        " ++ Decimal.grouped report.totalLines,
      "  Total bytes:        " ++ Decimal.grouped report.totalBytes,
      "  Total time:         " ++ Decimal.fixed 3 report.totalElapsed ++ "s",
      rule '─' width ] ++
    (if report.steps.isEmpty then []
    else ("  Pipeline Steps:" : Text) :: report.steps.map GenerationStep.line) ++
    sectionLines "Validation Errors" "✗" report.validationErrors ++
    sectionLines "Validation Warnings" "⚠" report.validationWarnings ++
    sectionLines "Generation Errors" "✗" report.generationErrors ++
    sectionLines "Export Errors" "✗" report.exportErrors ++
    sectionLines "Failed Entities" "⊘" report.failedEntities ++
    [rule '=' width]
  Text.intercalate "\n" lines

/-- The report with its verdict: a run succeeds when no step had an error to tell. -/
def finished (report : GenerationReport) : GenerationReport :=
  { report with
    success := report.validationErrors.isEmpty && report.generationErrors.isEmpty &&
      report.exportErrors.isEmpty }

/-- The report after one more step. -/
def withStep (report : GenerationReport) (name : Text) (success : Bool) (detail : Text) :
    GenerationReport :=
  { report with steps := report.steps ++ [{ name, success, detail }] }

end GenerationReport

end EntityForge
