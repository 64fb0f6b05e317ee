import EntityForge.Files.Write
import EntityForge.Generation.Outcome
import EntityForge.Generation.Report
import EntityForge.Log
import EntityForge.ModelFile.Content
import EntityForge.ModelFile.Load
import EntityForge.Validation.Model

/-!
# Generating classes

The whole way from a model to its files: validate, generate, write.  Errors of the model are
collected in the report; an entity that fails takes no other entity with it.
-/

namespace EntityForge

/-- What a run works on: the file tree, and the log that it keeps. -/
structure Workspace where
  tree : Files.Tree
  log : List LogEntry := []

/-- Why a run ends without a report. -/
inductive RunFault where
  | load (fault : ModelFile.LoadFault)
  | content (fault : ModelFile.ContentFault)
  | options (issues : List Schema.Issue)
  /-- A generated file that cannot be encoded. -/
  | encoding (fault : Text.Utf8.EncodingFault)
  | files (failure : Files.Failure)

/-- The wording of a fault. -/
def RunFault.message : RunFault → Text
  | .load fault => fault.message
  | .content fault => fault.message
  | .options issues => ModelFile.optionsMessage issues
  | .encoding fault => fault.message
  | .files failure => failure.message

/-- Whether a fault is an error of the input, which a report can tell. -/
def RunFault.isReported : RunFault → Bool
  | .load fault => fault.isReported
  | .content (.reference _) => false
  | .content _ | .options _ => true
  | .encoding _ | .files _ => false

/-- A run on a workspace. -/
abbrev Run := EStateM RunFault Workspace

namespace Run

/-- Adds entries to the log. -/
def note (entries : List LogEntry) : Run Unit :=
  modify fun workspace => { workspace with log := workspace.log ++ entries }

/-- The value, or the end of the run. -/
def ofExcept {ε α : Type} (fault : ε → RunFault) : Except ε α → Run α
  | .ok value => pure value
  | .error error => throw (fault error)

/-- The outcome of a run that may end early.  What it did before stays. -/
def attempt {α : Type} (run : Run α) : Run (Except RunFault α) := fun workspace =>
  match run workspace with
  | .ok value after => .ok (.ok value) after
  | .error fault after => .ok (.error fault) after

/-- Runs an action on the file tree. -/
def onFiles {α : Type} (action : Files.Action α) : Run α := fun workspace =>
  match action workspace.tree with
  | .ok value tree => .ok value { workspace with tree }
  | .error failure tree => .error (.files failure) { workspace with tree }

end Run

/-- How the generator is run. -/
structure Generator where
  /-- An entity with an error stops the run. -/
  strict : Bool := false
  failOnWarnings : Bool := false
  /-- Nothing is written. -/
  dryRun : Bool := false
  deriving BEq, DecidableEq, Repr

namespace Generator

/-- The verdict on the validation of a model. -/
def accepts (generator : Generator) (found : Diagnostics) : Bool :=
  found.isValid && !(generator.failOnWarnings && !found.warnings.isEmpty)

/-- What the validation found, in a few words. -/
def validationDetail (found : Diagnostics) : Text :=
  if !found.errors.isEmpty then s!"{found.errors.length} error(s)"
  else if !found.warnings.isEmpty then s!"{found.warnings.length} warning(s)"
  else "all checks passed"

/-- The report after the validation. -/
def afterValidation (generator : Generator) (found : Diagnostics) (report : GenerationReport) :
    GenerationReport :=
  let report := report.withStep "Validate Model" (generator.accepts found) (validationDetail found)
  let warningsCount : List Text :=
    if generator.failOnWarnings && !found.warnings.isEmpty && found.isValid then
      [s!"{found.warnings.length} warning(s) treated as errors."]
    else []
  { report with
    validationErrors :=
      report.validationErrors ++ found.errors.map Diagnostic.describe ++ warningsCount
    validationWarnings := report.validationWarnings ++ found.warnings.map Diagnostic.describe }

/-- The verdict of a validation. -/
def verdictEntry (found : Diagnostics) : LogEntry :=
  if found.isValid then ⟨.info, .validators, "Model validation PASSED. " ++ found.summary⟩
  else
    ⟨.error, .validators,
      s!"Model validation FAILED with {found.errors.length} error(s). " ++ found.summary⟩

/-- The log of a validation: its verdict, then its findings. -/
def validationLog (found : Diagnostics) : List LogEntry :=
  verdictEntry found ::
    found.warnings.map (fun item => ⟨.warning, .generator, "  ⚠ " ++ item.describe⟩) ++
    found.errors.map (fun item => ⟨.error, .generator, "  ✗ " ++ item.describe⟩)

/-- What the generation brought, in a few words. -/
def generationDetail (results : List EntityResult) : Text :=
  let files := generatedFiles results
  let failed := results.filterMap EntityResult.failedName?
  s!"{files.length} files, ~" ++ Decimal.grouped (totalLines files) ++
    s!" lines, {failed.length} failed"

/-- The report after the generation. -/
def afterGeneration (results : List EntityResult) (report : GenerationReport) :
    GenerationReport :=
  let files := generatedFiles results
  let failed := results.filterMap EntityResult.failedName?
  { report with
    files
    totalEntities := results.length
    totalFiles := files.length
    totalLines := totalLines files
    totalBytes := totalBytes files
    generationErrors := report.generationErrors ++ results.filterMap EntityResult.error?
    failedEntities := report.failedEntities ++ failed }.withStep
    "Code Generation" failed.isEmpty (generationDetail results)

/-- The log of a generation up to the bytes of its files: the entities that failed. -/
def skippedLog (results : List EntityResult) : List LogEntry :=
  results.filterMap fun result =>
    match result.outcome with
    | .failed error =>
        some (LogEntry.mk .error .generator
          ("Skipping entity '" ++ result.entity.entityClass ++ "': " ++ error.message))
    | _ => none

/-- The end of a generation. -/
def completionEntry (results : List EntityResult) : LogEntry :=
  ⟨.info, .generator,
    "Code generation complete: " ++ generationDetail results ++ " in 0.000s."⟩

/-- Accepts generated files if they can be encoded.  Their bytes are counted, so that a run ends
here with a file that has none. -/
def requireEncodable (files : List (Text × Text)) : Run Unit :=
  match encodingFault? files with
  | some fault => throw (.encoding fault)
  | none => pure ()

/-- The step that writes the files. -/
def writeStep : Text := "Export to Filesystem"

/-- The report after the files were written. -/
def afterWrite (written : Files.Written) (report : GenerationReport) : GenerationReport :=
  report.withStep writeStep true
    (s!"{written.files} files, " ++ Decimal.grouped written.bytes ++ " bytes")

/-- The report after a failure of the file system. -/
def afterFailedWrite (failure : Files.Failure) (report : GenerationReport) : GenerationReport :=
  let exportErrors := report.exportErrors ++ ["Failed to write files: " ++ failure.message]
  { report with exportErrors }.withStep writeStep false failure.message

/-- Writes the generated files.  A failure of the file system is told in the report. -/
def writeFiles (directory : Files.Path) (report : GenerationReport) : Run GenerationReport := do
  match ← Run.attempt (Run.onFiles (Files.Action.writeBatch directory true report.files)) with
  | .ok written =>
      Run.note
        [ ⟨.info, .files,
            s!"Batch write complete: {written.files} files, {written.bytes} bytes to " ++
              directory.text⟩ ]
      return afterWrite written report
  | .error (.files failure) =>
      if failure.isSystemFailure then
        Run.note [⟨.error, .generator, "Export failed: " ++ failure.message⟩]
        return afterFailedWrite failure report
      else throw (.files failure)
  | .error fault => throw fault

/-- Validates a model, generates its classes and writes them. -/
def process (generator : Generator) (model : EntityModel) (options : GeneratorOptions)
    (directory : Option Files.Path) (report : GenerationReport) : Run GenerationReport := do
  let found := model.validate
  Run.note (validationLog found)
  let validated := generator.afterValidation found report
  if generator.strict && !generator.accepts found then
    return validated.finished
  let results := model.results options
  Run.note (skippedLog results)
  requireEncodable (generatedFiles results)
  Run.note [completionEntry results]
  let generated := afterGeneration results validated
  match directory with
  | some directory =>
      if generator.dryRun || generated.files.isEmpty then
        noteDryRun generated
        return generated.finished
      else
        return (← writeFiles directory generated).finished
  | none =>
      noteDryRun generated
      return generated.finished
where
  /-- Says that files were not written on purpose. -/
  noteDryRun (report : GenerationReport) : Run Unit :=
    if generator.dryRun then
      Run.note
        [ ⟨.info, .generator,
            s!"Dry-run mode: {report.files.length} file(s) not written."⟩ ]
    else pure ()

/-- The report at the start of a run. -/
def start (generator : Generator) (directory : Option Files.Path) : Run GenerationReport := do
  match directory with
  | none => return { dryRun := generator.dryRun }
  | some directory =>
      let resolved ← Run.ofExcept .files ((← get).tree.resolve directory)
      return { dryRun := generator.dryRun, outputDirectory := resolved.text }

/-- Generates the classes of a model, and writes them if a directory is given. -/
def generate (generator : Generator) (model : EntityModel) (options : GeneratorOptions)
    (directory : Option Files.Path) : Run GenerationReport := do
  generator.process model options directory (← generator.start directory)

/-- Loads the content of a model file. -/
def loadContent (path : Files.Path) : Run (List (Data × Data)) := do
  let tree := (← get).tree
  let isFile :=
    match ModelFile.fileBytes tree path with
    | .ok _ => true
    | .error _ => false
  if isFile && ModelFile.Format.ofPath path == .either then
    Run.note
      [ ⟨.info, .generator,
          "Unknown extension '" ++ ModelFile.lowerSuffix path ++ "' — trying JSON then YAML."⟩ ]
  Run.ofExcept .load (ModelFile.load tree path)

/-- Reads a model and options from the content of a file. -/
def parseContent (content : List (Data × Data)) : Run (EntityModel × GeneratorOptions) := do
  if (ModelFile.entities? content).isSome && (ModelFile.options? content).isNone then
    Run.note
      [⟨.info, .generator, "No generator options found in input — using defaults."⟩]
  Run.ofExcept .content (ModelFile.parse content)

/-- Loads a model and options, over which some settings are laid. -/
def loadModel (path : Files.Path) (overrides : List (Data × Data)) :
    Run (EntityModel × GeneratorOptions) := do
  let (model, options) ← parseContent (← loadContent path)
  if overrides.isEmpty then
    return (model, options)
  match options.override overrides with
  | .valid options => return (model, options)
  | .invalid issues => throw (.options issues)

/-- Loads a model file, generates its classes, and writes them if a directory is given. -/
def generateFromFile (generator : Generator) (path : Files.Path) (directory : Option Files.Path)
    (overrides : List (Data × Data)) : Run GenerationReport := do
  let report ← generator.start directory
  match ← Run.attempt (loadModel path overrides) with
  | .ok (model, options) =>
      Run.note
        [ ⟨.info, .generator,
            "Loaded model file: " ++ path.text ++ s!" ({model.entities.length} entities)."⟩ ]
      generator.process model options directory
        (report.withStep "Load Model" true
          (s!"{model.entities.length} entities from " ++ path.name))
  | .error fault =>
      if fault.isReported then
        Run.note [⟨.error, .generator, "Failed to load model: " ++ fault.message⟩]
        return ({ report with generationErrors := [fault.message] }.withStep "Load Model" false
          fault.message).finished
      else throw fault

end Generator

end EntityForge
