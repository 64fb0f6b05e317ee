import EntityForge.Proofs.Code.Documentation
import EntityForge.Proofs.Generation.Bookkeeping
import EntityForge.Proofs.Identifier.Alphabet

/-!
# The verdict of a run

A report calls a run a success when its lists of errors are empty, while every step is recorded
with a verdict of its own.  The two agree, and both say the same about the model: it is valid, its
types can be printed, no two classes are alike, and its files could be written.
-/

namespace EntityForge

/-! ## When every entity owns its file -/

/-- Files are as different as the classes in them. -/
theorem Entity.fileName_eq_iff {options : GeneratorOptions} {left right : Entity} :
    left.fileName options = right.fileName options ↔ left.className = right.className := by
  rw [fileName, fileName, Text.append_left_inj]
  exact Identifier.withoutVerbatim_safeName_inj

/-- No entity is without its file if all can be written and no two classes are alike. -/
theorem EntityModel.complete_iff (model : EntityModel) (options : GeneratorOptions) :
    withoutFile options model.entities = [] ↔
      (∀ entity ∈ model.entities, ∃ code, entity.synthesize options = .ok code) ∧
        (model.entities.map Entity.className).Nodup := by
  rw [withoutFile_eq_nil_iff, List.nodup_map_iff_inj_on model.nodup_entities]
  constructor
  · intro each
    refine ⟨fun entity member => (owner?_eq_some (each entity member)).2.1, ?_⟩
    intro left inLeft right inRight same
    have ownsLeft := each left inLeft
    have ownsRight := each right inRight
    rw [Entity.HasFile, Entity.fileName_eq_iff.mpr same, ownsRight] at ownsLeft
    exact (Option.some.inj ownsLeft).symm
  · rintro ⟨written, distinct⟩ entity member
    have writes : entity.writes options (entity.fileName options) = true :=
      Entity.writes_iff.mpr ⟨written entity member, rfl⟩
    obtain ⟨owner, found⟩ := Option.isSome_iff_exists.mp
      (isSome_owner?_iff.mpr ⟨entity, member, writes⟩)
    obtain ⟨inModel, _, sameFile⟩ := owner?_eq_some found
    have same := distinct owner inModel entity member (Entity.fileName_eq_iff.mp sameFile)
    rw [Entity.HasFile, found, same]

/-! ## Validation -/

theorem EntityModel.errors_validate_eq_nil_iff {model : EntityModel} :
    model.validate.errors = [] ↔ ∀ finding ∈ model.findings, finding.isError = false := by
  rw [validate, Diagnostics.ofFindings, Diagnostics.errors, List.filter_eq_nil_iff,
    List.forall_mem_map]
  simp only [Bool.not_eq_true]
  exact Iff.rfl

/-- In a model without errors every entity is valid by itself. -/
theorem EntityModel.isValid_of_errors_eq_nil {model : EntityModel}
    (none : model.validate.errors = []) {entity : Entity} (member : entity ∈ model.entities) :
    entity.IsValid := by
  intro finding found
  refine errors_validate_eq_nil_iff.mp none finding ?_
  rw [findings, List.mem_flatMap]
  exact ⟨entity, member, List.mem_append_left _ found⟩

theorem Generator.accepts_iff {generator : Generator} {found : Diagnostics} :
    generator.accepts found = true ↔
      found.errors = [] ∧ (found.warnings = [] ∨ generator.failOnWarnings = false) := by
  rw [accepts, Diagnostics.isValid]
  cases generator.failOnWarnings with
  | true => simp
  | false => simp

/-- The errors of a validation are those of its verdict. -/
theorem Generator.validationErrors_eq_nil_iff {generator : Generator} {found : Diagnostics}
    {report : GenerationReport} (noErrors : report.validationErrors = []) :
    (generator.afterValidation found report).validationErrors = [] ↔
      generator.accepts found = true := by
  rw [accepts_iff]
  simp only [afterValidation, GenerationReport.withStep, noErrors, List.nil_append,
    List.append_eq_nil_iff, List.map_eq_nil_iff]
  refine and_congr_right fun none => ?_
  have valid : found.isValid = true := by
    rw [Diagnostics.isValid, none]
    rfl
  cases generator.failOnWarnings with
  | false => simp
  | true => simp [valid]

/-! ## Steps -/

/-- Whether every step of a report succeeded. -/
def GenerationReport.StepsSucceed (report : GenerationReport) : Prop :=
  ∀ step ∈ report.steps, step.success = true

theorem GenerationReport.stepsSucceed_withStep {report : GenerationReport} {name detail : Text}
    {success : Bool} :
    (report.withStep name success detail).StepsSucceed ↔
      report.StepsSucceed ∧ success = true := by
  rw [StepsSucceed, withStep, List.forall_mem_append, List.forall_mem_singleton, StepsSucceed]

theorem GenerationReport.success_finished_iff {report : GenerationReport} :
    report.finished.success = true ↔
      report.validationErrors = [] ∧ report.generationErrors = [] ∧ report.exportErrors = [] := by
  simp only [finished, Bool.and_eq_true, List.isEmpty_iff, and_assoc]

namespace Generator

variable {generator : Generator} {model : EntityModel} {options : GeneratorOptions}
  {directory : Option Files.Path} {tree : Files.Tree} {report filled : GenerationReport}

/-- Whether the files can be written where they are to be written at all. -/
def CanExport (generator : Generator) (directory : Option Files.Path) (tree : Files.Tree)
    (files : List (Text × Text)) : Prop :=
  ∀ target failure after, generator.target? directory files = some target →
    Files.Action.writeBatch target true files tree = .error failure after →
    failure.isSystemFailure = false

/-- The last step brings errors to the report exactly if it fails. -/
theorem afterExport_verdict (run : generator.afterExport directory tree report = .ok filled) :
    filled.files = report.files ∧
    (filled.exportErrors = [] ↔
      report.exportErrors = [] ∧ generator.CanExport directory tree report.files) ∧
    (filled.StepsSucceed ↔
      report.StepsSucceed ∧ generator.CanExport directory tree report.files) := by
  rw [afterExport] at run
  split at run
  next nowhere =>
    have free : generator.CanExport directory tree report.files := by
      intro target failure after somewhere
      cases nowhere.symm.trans somewhere
    cases run
    simp [free]
  next target somewhere =>
    rw [exported] at run
    split at run
    next written after wrote =>
      have free : generator.CanExport directory tree report.files := by
        intro other failure later same failed
        cases somewhere.symm.trans same
        cases wrote.symm.trans failed
      cases run
      refine ⟨rfl, (and_iff_left free).symm, ?_⟩
      rw [afterWrite, GenerationReport.stepsSucceed_withStep]
      exact and_congr Iff.rfl (iff_of_true rfl free)
    next failure after failed =>
      split at run
      next system =>
        have stuck : ¬generator.CanExport directory tree report.files := by
          intro free
          cases system.symm.trans (free target failure after somewhere failed)
        cases run
        refine ⟨rfl, ?_, ?_⟩
        · simp [afterFailedWrite, GenerationReport.withStep, stuck]
        · rw [afterFailedWrite, GenerationReport.stepsSucceed_withStep]
          exact and_congr Iff.rfl (iff_of_false Bool.false_ne_true stuck)
      next => cases run

theorem stepsSucceed_afterValidation {found : Diagnostics} (blank : report.IsBlank) :
    (generator.afterValidation found report).StepsSucceed ↔ generator.accepts found = true := by
  have none : report.StepsSucceed := by
    rw [GenerationReport.StepsSucceed, blank.steps]
    exact fun _ impossible => absurd impossible List.not_mem_nil
  exact GenerationReport.stepsSucceed_withStep.trans (and_iff_right none)

/-- The first steps bring errors to an empty report exactly if they fail. -/
theorem generated_verdict (generator : Generator) (model : EntityModel)
    (options : GeneratorOptions) (blank : report.IsBlank) :
    ((generator.generated model options report).validationErrors = [] ↔
      generator.accepts model.validate = true) ∧
    ((generator.generated model options report).generationErrors = [] ↔
      withoutFile options model.entities = []) ∧
    ((generator.generated model options report).StepsSucceed ↔
      generator.accepts model.validate = true ∧ withoutFile options model.entities = []) := by
  have errors : (generator.generated model options report).generationErrors =
      (withoutFile options model.entities).map (Entity.failureMessage options) :=
    (accounts_generated blank [] []).generationErrors
  refine ⟨validationErrors_eq_nil_iff blank.validationErrors, ?_, ?_⟩
  · rw [errors, List.map_eq_nil_iff]
  · rw [generated, afterGeneration, GenerationReport.stepsSucceed_withStep,
      ← EntityModel.failedNames_results, List.isEmpty_iff, List.map_eq_nil_iff]
    exact and_congr (stepsSucceed_afterValidation blank) Iff.rfl

/-- What a run must not meet to be a success. -/
structure Approves (generator : Generator) (model : EntityModel) (options : GeneratorOptions)
    (directory : Option Files.Path) (tree : Files.Tree) (files : List (Text × Text)) :
    Prop where
  accepts : generator.accepts model.validate = true
  withoutFile : withoutFile options model.entities = []
  canExport : generator.CanExport directory tree files

/-- Errors and steps of a report agree on what the run met. -/
theorem reported_verdict (blank : report.IsBlank)
    (run : generator.reported model options directory tree report = .ok filled) :
    (filled.finished.success = true ↔
      generator.Approves model options directory tree filled.files) ∧
    (filled.StepsSucceed ↔ generator.Approves model options directory tree filled.files) := by
  cases verdict : generator.stops model with
  | true =>
      have rejected : ¬generator.accepts model.validate = true := by
        simp only [stops, Bool.and_eq_true, Bool.not_eq_true'] at verdict
        simp [verdict.2]
      rw [reported, verdict, if_pos rfl] at run
      cases run
      rw [GenerationReport.success_finished_iff,
        validationErrors_eq_nil_iff blank.validationErrors, stepsSucceed_afterValidation blank]
      have refused : ¬generator.Approves model options directory tree
          (generator.afterValidation model.validate report).files :=
        fun approves => rejected approves.accepts
      exact ⟨iff_of_false (fun errors => rejected errors.1) refused, iff_of_false rejected refused⟩
  | false =>
      obtain ⟨-, run⟩ := (reported_eq_ok_iff verdict).mp run
      obtain ⟨files, errors, steps⟩ := afterExport_verdict run
      obtain ⟨validation, generation, first⟩ := generator.generated_verdict model options blank
      obtain ⟨_, _, shape⟩ := afterExport_eq_ok run
      have approves : generator.Approves model options directory tree filled.files ↔
          generator.accepts model.validate = true ∧ withoutFile options model.entities = [] ∧
            generator.CanExport directory tree filled.files := by
        constructor
        · intro holds
          exact ⟨holds.accepts, holds.withoutFile, holds.canExport⟩
        · rintro ⟨accepts, complete, free⟩
          exact ⟨accepts, complete, free⟩
      have sameValidation : filled.validationErrors =
          (generator.generated model options report).validationErrors := by rw [shape]
      have sameGeneration : filled.generationErrors =
          (generator.generated model options report).generationErrors := by rw [shape]
      have noErrors : (generator.generated model options report).exportErrors = [] :=
        blank.exportErrors
      rw [approves, files]
      constructor
      · rw [GenerationReport.success_finished_iff, sameValidation, sameGeneration, validation,
          generation, errors, and_iff_right noErrors]
      · rw [steps, first, and_assoc]

/-- What a run must not meet, told by the model. -/
theorem approves_iff {files : List (Text × Text)} :
    generator.Approves model options directory tree files ↔
      model.validate.errors = [] ∧
      (model.validate.warnings = [] ∨ generator.failOnWarnings = false) ∧
      (∀ entity ∈ model.entities, ∀ property ∈ entity.properties,
        property.systemType.IsPrintable) ∧
      (model.entities.map Entity.className).Nodup ∧
      generator.CanExport directory tree files := by
  constructor
  · rintro ⟨accepts, complete, free⟩
    obtain ⟨errors, warnings⟩ := accepts_iff.mp accepts
    obtain ⟨written, distinct⟩ := (model.complete_iff options).mp complete
    refine ⟨errors, warnings, ?_, distinct, free⟩
    intro entity member
    exact (Entity.exists_synthesize_iff.mp (written entity member)).2
  · rintro ⟨errors, warnings, printable, distinct, free⟩
    have written : ∀ entity ∈ model.entities, ∃ code, entity.synthesize options = .ok code := by
      intro entity member
      exact Entity.exists_synthesize_iff.mpr
        ⟨EntityModel.isValid_of_errors_eq_nil errors member, printable entity member⟩
    exact ⟨accepts_iff.mpr ⟨errors, warnings⟩,
      (model.complete_iff options).mpr ⟨written, distinct⟩, free⟩

/-- A run is a success exactly if all its steps are, and exactly if nothing is wrong with the
model and its files can be written.  Then every entity has a file of its own. -/
theorem success_iff_of_generate {workspace after : Workspace}
    (run : generator.generate model options directory workspace = .ok report after) :
    (report.success = true ↔ ∀ step ∈ report.steps, step.success = true) ∧
    (report.success = true ↔
      model.validate.errors = [] ∧
      (model.validate.warnings = [] ∨ generator.failOnWarnings = false) ∧
      (∀ entity ∈ model.entities, ∀ property ∈ entity.properties,
        property.systemType.IsPrintable) ∧
      (model.entities.map Entity.className).Nodup ∧
      generator.CanExport directory workspace.tree report.files) ∧
    (report.success = true →
      report.failedEntities = [] ∧
      List.Forall₂ (Entity.Generates options) model.entities report.files ∧
      (report.files.map Prod.fst).Nodup) := by
  obtain ⟨start, filled, blank, came, rfl⟩ := exists_reported_of_generate run
  obtain ⟨success, steps⟩ := reported_verdict blank came
  refine ⟨success.trans steps.symm, success.trans approves_iff, ?_⟩
  intro succeeded
  obtain ⟨accepts, complete, _⟩ := success.mp succeeded
  rcases files_of_generate run with ⟨stopped, _⟩ | ⟨_, accounts, _⟩
  · rw [stops, accepts, Bool.not_true, Bool.and_false] at stopped
    cases stopped
  · refine ⟨?_, withFile_eq_self complete ▸ accounts.files, accounts.names⟩
    rw [accounts.failedEntities, complete]
    rfl

/-- A single order, kept under its key. -/
def singleOrder : EntityModel where
  entities := [Entity.orderKeyedOn "id"]
  distinct := List.nodup_singleton _

/-- The strictest run on a single order is a success with one file. -/
theorem success_of_generate_singleOrder :
    ∃ report after,
      ({ strict := true, failOnWarnings := true } : Generator).generate singleOrder {} none
        { tree := {} } = .ok report after ∧
      report.success = true ∧ (∀ step ∈ report.steps, step.success = true) ∧
      report.failedEntities = [] ∧ report.files.length = 1 := by
  obtain ⟨report, after, run⟩ := exists_generate_of_none
    { strict := true, failOnWarnings := true }
    (singleOrder.encodingFault?_of_undocumented {} rfl) { tree := {} }
  obtain ⟨steps, conditions, complete⟩ := success_iff_of_generate run
  have success : report.success = true := by
    have clean : singleOrder.validate = .ofFindings [] :=
      congrArg Diagnostics.ofFindings (by decide : singleOrder.findings = [])
    refine conditions.mpr ⟨?_, .inl ?_, ?_, ?_, ?_⟩
    · rw [clean]
      rfl
    · rw [clean]
      rfl
    · refine List.forall_mem_singleton.mpr (List.forall_mem_singleton.mpr ?_)
      exact SystemType.isPrintable_of_isQualifiedName (by decide)
    · exact List.nodup_singleton _
    · intro target failure later somewhere
      rw [target?_none] at somewhere
      cases somewhere
  obtain ⟨none, paired, _⟩ := complete success
  exact ⟨report, after, run, success, steps.mp success, none, paired.length_eq.symm⟩

end Generator

end EntityForge
