import EntityForge.CommandLine.Invocation
import EntityForge.CommandLine.Outcome
import EntityForge.Generation.Generator

/-!
# Running the program

A run either validates a model and reports on it, or generates its classes.  What went wrong first
decides the exit code.
-/

namespace EntityForge.CommandLine

namespace Settings

/-- The generator as it is set up. -/
def generator (settings : Settings) : Generator :=
  { strict := settings.strict
    failOnWarnings := settings.failOnWarnings
    dryRun := settings.dryRun }

/-- The options that are laid over those of the model file. -/
def overrides (settings : Settings) : List (Data × Data) :=
  let switch (name : Text) (value : Bool) : List (Data × Data) :=
    if value then [(.text name, .bool true)] else []
  switch "document" settings.document ++ switch "nullable" settings.nullable ++
    switch "file_scoped_namespace" settings.fileScopedNamespace ++
    (settings.indentSize.map fun size => (Data.text "indent_size", Data.int size)).toList

end Settings

/-- An entry of the log that the program itself makes. -/
def programEntry (level : LogLevel) (text : Text) : LogEntry :=
  ⟨level, .program, text⟩

/-- Notes an entry of the program itself. -/
def tell (level : LogLevel) (text : Text) : Run Unit :=
  Run.note [programEntry level text]

/-- The width of the rules across a validation report. -/
def validationWidth : Nat := 50

/-- The report on the validation of a model file. -/
def validationReport (path : Files.Path) (model : EntityModel) (found : Diagnostics) :
    List Text :=
  [ "\n" ++ rule '=' validationWidth,
    "  Entity Model Validation Report",
    rule '=' validationWidth,
    "  File:     " ++ path.name,
    s!"  Entities: {model.entities.length}",
    "  Time:     0.000s",
    "  Valid:    " ++ if found.isValid then "Yes" else "No" ] ++
    (if found.items.isEmpty then [] else [("" : Text), found.report]) ++
    [rule '=' validationWidth ++ "\n"]

/-- Loads and reads a model file. -/
def readModel (path : Files.Path) : Run EntityModel := do
  let (model, _) ← Generator.parseContent (← Generator.loadContent path)
  return model

/-- Validates a model file, and nothing more. -/
def validateOnly (path : Files.Path) : Run Outcome := do
  tell .info ("Running validation-only mode for: " ++ path.text)
  match ← Run.attempt (readModel path) with
  | .error fault =>
      if fault.isReported then
        tell .error ("Failed to load model: " ++ fault.message)
        return { exit := .inputError }
      else throw fault
  | .ok model =>
      let found := model.validate
      Run.note [Generator.verdictEntry found]
      return {
        exit := if found.isValid then .success else .validationError
        output := validationReport path model found }

/-- How a generation went, by its report. -/
def exitOf (report : GenerationReport) : Exit :=
  if report.success then .success
  else if !report.validationErrors.isEmpty then .validationError
  else if !report.exportErrors.isEmpty then .exportError
  else .generationError

/-- The generated files, sorted by their names. -/
def printedFiles (report : GenerationReport) : List Text :=
  (report.files.mergeSort fun left right => left.1 ≤ right.1).flatMap fun (name, code) =>
    ["// ---- " ++ name ++ " ----", code]

/-- The last entry of a generation's log. -/
def closingEntry (exit : Exit) : LogEntry :=
  if exit = .success then programEntry .info "Generation completed successfully."
  else programEntry .error s!"Generation failed with exit code {exit.code}."

/-- The outcome of a generation. -/
def generationOutcome (settings : Settings) (report : GenerationReport) : Outcome :=
  let summary := if settings.quiet then [] else [Notice.report report]
  { exit := exitOf report
    output := if settings.dryRun then printedFiles report else []
    notices := summary ++ shown settings.leastLevel [closingEntry (exitOf report)] }

/-- Generates the classes of a model file. -/
def generation (settings : Settings) (path : Files.Path) (directory : Option Files.Path) :
    Run Outcome := do
  tell .info ("Model:   " ++ path.text)
  tell .info ("Output:  " ++ (directory.map Files.Path.text).getD "None")
  tell .info ("Strict:  " ++ if settings.strict then "True" else "False")
  let report ← settings.generator.generateFromFile path directory settings.overrides
  return generationOutcome settings report

/-- What a path is resolved to. -/
def resolved (text : Text) : Run Files.Path := do
  Run.ofExcept .files ((← get).tree.resolve (.ofText text))

/-- Whether a path leads to a file. -/
def isFile (path : Files.Path) : Run Bool := do
  match ← Run.ofExcept .files ((← get).tree.find path) with
  | some (.file _) => return true
  | _ => return false

/-- Runs the program on a model. -/
def Invocation.execute (invocation : Invocation) : Run Outcome := do
  let settings := invocation.settings
  let path ← resolved invocation.model
  if !(← isFile path) then
    tell .error ("Model file not found: " ++ path.text)
    return { exit := .inputError }
  if settings.validateOnly then
    return ← validateOnly path
  if settings.output.isNone && !settings.dryRun then
    tell .error
      ("Output directory is required for generation. " ++
        "Use -o/--output, --dry-run or --validate-only.")
    return { exit := .inputError, notices := [.usage] }
  generation settings path (← settings.output.mapM resolved)

/-- The outcome of arguments that lead to no run. -/
def Refusal.outcome : Refusal → Outcome
  | .help => { exit := .success, output := [CommandLine.help] }
  | .version => { exit := .success, output := [versionText] }
  | .fault found => { exit := .usageError, notices := [.usage, .fault found] }

/-- Runs the program: the outcome, and the file tree after it. -/
def run (arguments : List Text) (tree : Files.Tree) :
    Except RunFault (Outcome × Files.Tree) :=
  match Invocation.read arguments with
  | .error refusal => .ok (refusal.outcome, tree)
  | .ok invocation =>
      match invocation.execute { tree } with
      | .ok outcome after =>
          .ok (outcome.after invocation.settings.leastLevel after.log, after.tree)
      | .error fault _ => .error fault

end EntityForge.CommandLine
