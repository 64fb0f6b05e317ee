import EntityForge.Generation.Generator
import EntityForge.Proofs.Traversal

/-!
# What comes out of a run

A run notes what it does and writes files, but its report depends on the model, on the settings and
on the file tree at its start only.  The report is given here as a function of these, which later
proofs use in place of the run.
-/

namespace EntityForge

/-! ## Outcomes -/

namespace Run

variable {α β : Type}

/-- What comes out of a run, whatever it leaves behind. -/
def outcome (run : Run α) (workspace : Workspace) : Except RunFault α :=
  match run workspace with
  | .ok value _ => .ok value
  | .error fault _ => .error fault

theorem outcome_eq_ok_iff {run : Run α} {workspace : Workspace} {value : α} :
    run.outcome workspace = .ok value ↔ ∃ after, run workspace = .ok value after := by
  rw [outcome]
  cases run workspace with
  | ok found after => simp
  | error fault after => simp

theorem outcome_bind (run : Run α) (next : α → Run β) (workspace : Workspace) :
    Run.outcome (run >>= next) workspace =
      match run workspace with
      | .ok value after => (next value).outcome after
      | .error fault _ => .error fault := by
  simp only [outcome, bind, EStateM.bind]
  cases run workspace with
  | ok value after => rfl
  | error fault after => rfl

/-- The log has no say in what follows. -/
theorem outcome_note_bind (entries : List LogEntry) (next : Unit → Run α)
    (workspace : Workspace) :
    Run.outcome (note entries >>= next) workspace =
      (next ()).outcome { workspace with log := workspace.log ++ entries } :=
  rfl

section

variable {run : Run α} {workspace after : Workspace}

theorem bind_eq_of_ok {value : α} (ran : run workspace = .ok value after) (next : α → Run β) :
    (run >>= next) workspace = next value after := by
  simp only [bind, EStateM.bind, ran]

theorem bind_eq_of_error {fault : RunFault} (ran : run workspace = .error fault after)
    (next : α → Run β) : (run >>= next) workspace = .error fault after := by
  simp only [bind, EStateM.bind, ran]

end

theorem outcome_bind_pure (run : Run α) (image : α → β) (workspace : Workspace) :
    Run.outcome (run >>= fun value => pure (image value)) workspace =
      (run.outcome workspace).map image := by
  rw [outcome_bind, outcome]
  cases run workspace with
  | ok value after => rfl
  | error fault after => rfl

end Run

/-! ## The steps of the generator -/

/-- A report to which nothing was added yet. -/
structure GenerationReport.IsBlank (report : GenerationReport) : Prop where
  files : report.files = []
  steps : report.steps = []
  validationErrors : report.validationErrors = []
  generationErrors : report.generationErrors = []
  exportErrors : report.exportErrors = []
  failedEntities : report.failedEntities = []

namespace Generator

open Run

/-- The directory to which generated files are written, if they are written at all. -/
def target? (generator : Generator) (directory : Option Files.Path)
    (files : List (Text × Text)) : Option Files.Path :=
  if generator.dryRun || files.isEmpty then none else directory

theorem target?_none (generator : Generator) (files : List (Text × Text)) :
    generator.target? none files = none := by
  rw [target?, ite_self]

/-- The report after an attempt to write its files to a directory of a tree. -/
def exported (directory : Files.Path) (tree : Files.Tree) (report : GenerationReport) :
    Except Files.Failure GenerationReport :=
  match Files.Action.writeBatch directory true report.files tree with
  | .ok written _ => .ok (afterWrite written report)
  | .error failure _ =>
      if failure.isSystemFailure then .ok (afterFailedWrite failure report) else .error failure

theorem outcome_writeFiles (directory : Files.Path) (report : GenerationReport)
    (workspace : Workspace) :
    (writeFiles directory report).outcome workspace =
      (exported directory workspace.tree report).mapError .files := by
  rw [writeFiles, outcome_bind, exported, attempt, onFiles]
  cases Files.Action.writeBatch directory true report.files workspace.tree with
  | ok written tree => rfl
  | error failure tree =>
      simp only
      split
      next => rfl
      next => rfl

/-- A verdict against the model that ends the run. -/
def stops (generator : Generator) (model : EntityModel) : Bool :=
  generator.strict && !generator.accepts model.validate

/-- The report before the files are written. -/
def generated (generator : Generator) (model : EntityModel) (options : GeneratorOptions)
    (report : GenerationReport) : GenerationReport :=
  afterGeneration (model.results options) (generator.afterValidation model.validate report)

/-- The report after the last step, which writes the files if there is a place for them. -/
def afterExport (generator : Generator) (directory : Option Files.Path) (tree : Files.Tree)
    (report : GenerationReport) : Except Files.Failure GenerationReport :=
  match generator.target? directory report.files with
  | none => .ok report
  | some target => exported target tree report

/-- The report on a model as a function of the settings and of the file tree. -/
def reported (generator : Generator) (model : EntityModel) (options : GeneratorOptions)
    (directory : Option Files.Path) (tree : Files.Tree) (report : GenerationReport) :
    Except RunFault GenerationReport :=
  if generator.stops model then .ok (generator.afterValidation model.validate report)
  else
    match encodingFault? (generatedFiles (model.results options)) with
    | some fault => .error (.encoding fault)
    | none =>
        (generator.afterExport directory tree (generator.generated model options report)).mapError
          .files

/-- A run that is not stopped reports what it writes, provided that it can be encoded. -/
theorem reported_eq_ok_iff {generator : Generator} {model : EntityModel}
    {options : GeneratorOptions} {directory : Option Files.Path} {tree : Files.Tree}
    {report filled : GenerationReport} (runs : generator.stops model = false) :
    generator.reported model options directory tree report = .ok filled ↔
      encodingFault? (generatedFiles (model.results options)) = none ∧
        generator.afterExport directory tree (generator.generated model options report) =
          .ok filled := by
  rw [reported, runs, if_neg Bool.false_ne_true]
  split
  next fault found => simp [found]
  next none => simp [none, mapError_eq_ok_iff]

theorem outcome_noteDryRun_bind (generator : Generator) (report : GenerationReport)
    {α : Type} (value : α) (workspace : Workspace) :
    Run.outcome (process.noteDryRun generator report >>= fun _ => pure value) workspace =
      .ok value := by
  rw [process.noteDryRun]
  split
  next => rfl
  next => rfl

/-- A run reports what validation, generation and writing bring, one after the other. -/
theorem outcome_process (generator : Generator) (model : EntityModel)
    (options : GeneratorOptions) (directory : Option Files.Path) (report : GenerationReport)
    (workspace : Workspace) :
    (generator.process model options directory report).outcome workspace =
      (generator.reported model options directory workspace.tree report).map
        GenerationReport.finished := by
  rw [process, outcome_note_bind, reported, stops]
  split
  next => rfl
  next =>
    rw [outcome_note_bind, ← generated]
    dsimp only
    rw [requireEncodable]
    cases encodingFault? (generatedFiles (model.results options)) with
    | some fault => rfl
    | none =>
      rw [pure_bind, outcome_note_bind]
      cases directory with
      | none =>
          rw [outcome_noteDryRun_bind, afterExport, target?_none]
          rfl
      | some directory =>
          dsimp only
          rw [afterExport, target?]
          split
          next =>
            rw [outcome_noteDryRun_bind]
            rfl
          next => rw [outcome_bind_pure, outcome_writeFiles]

/-- The report at the start of a run, as a function of the settings and of the file tree. -/
def opened (generator : Generator) (directory : Option Files.Path) (tree : Files.Tree) :
    Except Files.Failure GenerationReport :=
  match directory with
  | none => .ok { dryRun := generator.dryRun }
  | some directory =>
      (tree.resolve directory).map fun resolved =>
        { dryRun := generator.dryRun, outputDirectory := resolved.text }

theorem start_eq (generator : Generator) (directory : Option Files.Path)
    (workspace : Workspace) :
    generator.start directory workspace =
      match generator.opened directory workspace.tree with
      | .ok report => .ok report workspace
      | .error failure => .error (.files failure) workspace := by
  cases directory with
  | none => rfl
  | some directory =>
      rw [start, opened]
      simp only [bind, EStateM.bind, get, getThe, MonadStateOf.get]
      delta EStateM.get
      dsimp only
      cases workspace.tree.resolve directory with
      | ok resolved => rfl
      | error failure => rfl

/-- A run starts with an empty report. -/
theorem isBlank_of_opened {generator : Generator} {directory : Option Files.Path}
    {tree : Files.Tree} {report : GenerationReport}
    (run : generator.opened directory tree = .ok report) : report.IsBlank := by
  cases directory with
  | none =>
      cases run
      constructor <;> rfl
  | some directory =>
      obtain ⟨resolved, _, rfl⟩ := map_eq_ok_iff.mp run
      constructor <;> rfl

theorem outcome_generate (generator : Generator) (model : EntityModel)
    (options : GeneratorOptions) (directory : Option Files.Path) (workspace : Workspace) :
    (generator.generate model options directory).outcome workspace =
      (((generator.opened directory workspace.tree).mapError .files).bind
        (generator.reported model options directory workspace.tree)).map
          GenerationReport.finished := by
  rw [generate, outcome_bind, start_eq]
  cases generator.opened directory workspace.tree with
  | ok report => exact generator.outcome_process model options directory report workspace
  | error failure => rfl

/-- A report of a run is an empty one that went through all steps. -/
theorem exists_reported_of_generate {generator : Generator} {model : EntityModel}
    {options : GeneratorOptions} {directory : Option Files.Path} {workspace after : Workspace}
    {report : GenerationReport}
    (run : generator.generate model options directory workspace = .ok report after) :
    ∃ blank filled, blank.IsBlank ∧
      generator.reported model options directory workspace.tree blank = .ok filled ∧
      report = filled.finished := by
  have came := outcome_eq_ok_iff.mpr ⟨after, run⟩
  rw [outcome_generate, map_eq_ok_iff] at came
  obtain ⟨filled, bound, rfl⟩ := came
  cases opening : generator.opened directory workspace.tree with
  | error failure =>
      rw [opening] at bound
      cases bound
  | ok fresh =>
      rw [opening] at bound
      exact ⟨fresh, filled, isBlank_of_opened opening, bound, rfl⟩

/-- Without a directory every run ends with a report, unless a generated file cannot be encoded. -/
theorem exists_generate_of_none (generator : Generator) {model : EntityModel}
    {options : GeneratorOptions}
    (encodable : encodingFault? (generatedFiles (model.results options)) = none)
    (workspace : Workspace) :
    ∃ report after, generator.generate model options none workspace = .ok report after := by
  have filled : ∃ report,
      (generator.generate model options none).outcome workspace = .ok report := by
    rw [outcome_generate, opened]
    dsimp only [Except.mapError, Except.bind]
    rw [reported, encodable, afterExport, target?_none]
    split
    next => exact ⟨_, rfl⟩
    next => exact ⟨_, rfl⟩
  obtain ⟨report, came⟩ := filled
  obtain ⟨after, run⟩ := outcome_eq_ok_iff.mp came
  exact ⟨report, after, run⟩

end Generator

end EntityForge
