import EntityForge.Proofs.Code.Rendering
import EntityForge.Proofs.Generation.Outcomes
import EntityForge.Proofs.Generation.Process
import EntityForge.Proofs.Text.Utf8
import Mathlib.Algebra.GroupWithZero.Nat

/-!
# Accounts of a generation

Every entity of a model is accounted for exactly once: with the file that it owns, or with its name
and a reason among the failures.  The totals of a report are those of its files.
-/

namespace EntityForge

/-! ## Totals -/

/-- A class is rendered line by line, so that its lines are its line feeds. -/
theorem Entity.lineCount_synthesize {entity : Entity} {options : GeneratorOptions} {code : Text}
    (run : entity.synthesize options = .ok code) :
    Text.lineCount code = code.toList.count (.scalar '\n') := by
  obtain ⟨_, plan, _, rfl⟩ := synthesize_eq_ok_iff.mp run
  exact Layout.lineCount_render options.indentSize _

theorem totalLines_generatedFiles (model : EntityModel) (options : GeneratorOptions) :
    totalLines (generatedFiles (model.results options)) =
      ((generatedFiles (model.results options)).map fun file =>
        file.2.toList.count (.scalar '\n')).sum := by
  have same : ∀ file ∈ generatedFiles (model.results options),
      Text.lineCount file.2 = file.2.toList.count (.scalar '\n') := by
    intro file member
    obtain ⟨entity, _, run⟩ := (model.mem_generatedFiles_iff options).mp member
    exact Entity.lineCount_synthesize run
  rw [totalLines, List.map_congr_left same]
  rfl

theorem totalBytes_eq (files : List (Text × Text)) :
    totalBytes files = (files.map fun file => file.2.utf8ByteSize).sum := by
  simp only [totalBytes, Text.Utf8.length_encode]
  rfl

/-! ## The report -/

/-- What a report says about the entities of a model whose classes were generated. -/
structure GenerationReport.Accounts (report : GenerationReport) (model : EntityModel)
    (options : GeneratorOptions) : Prop where
  /-- The files are those of the entities that own them, in the order of the model. -/
  files : List.Forall₂ (Entity.Generates options) (withFile options model.entities) report.files
  /-- A file name leads to the class of the first entity that can be written under it. -/
  owner : ∀ fileName code, (fileName, code) ∈ report.files ↔
    ∃ entity, owner? options model.entities fileName = some entity ∧
      entity.synthesize options = .ok code
  names : (report.files.map Prod.fst).Nodup
  /-- All other entities failed. -/
  failedEntities : report.failedEntities =
    (withoutFile options model.entities).map Entity.failureName
  generationErrors : report.generationErrors =
    (withoutFile options model.entities).map (Entity.failureMessage options)
  complete : report.files.length + report.failedEntities.length = model.entities.length
  totalEntities : report.totalEntities = model.entities.length
  totalFiles : report.totalFiles = report.files.length
  totalLines : report.totalLines =
    (report.files.map fun file => file.2.toList.count (.scalar '\n')).sum
  totalBytes : report.totalBytes = (report.files.map fun file => file.2.utf8ByteSize).sum

namespace Generator

variable {generator : Generator} {model : EntityModel} {options : GeneratorOptions}
  {directory : Option Files.Path} {tree : Files.Tree} {report filled : GenerationReport}

/-- Writing the files adds a step and perhaps an error to the report, nothing else. -/
theorem afterExport_eq_ok (run : generator.afterExport directory tree report = .ok filled) :
    ∃ steps exportErrors, filled = { report with steps, exportErrors } := by
  rw [afterExport] at run
  split at run
  next =>
    cases run
    exact ⟨report.steps, report.exportErrors, rfl⟩
  next =>
    rw [exported] at run
    split at run
    next =>
      cases run
      exact ⟨_, report.exportErrors, rfl⟩
    next =>
      split at run
      next =>
        cases run
        exact ⟨_, _, rfl⟩
      next => cases run

theorem length_results (model : EntityModel) (options : GeneratorOptions) :
    (model.results options).length = model.entities.length := by
  rw [EntityModel.results_eq, List.length_map]

/-- The accounts of a generation do not depend on what comes before and after it. -/
theorem accounts_generated (blank : report.IsBlank) (steps : List GenerationStep)
    (exportErrors : List Text) :
    GenerationReport.Accounts
      { generator.generated model options report with steps, exportErrors } model options := by
  have failed : (generator.generated model options report).failedEntities =
      (withoutFile options model.entities).map Entity.failureName := by
    rw [EntityModel.failedNames_results]
    simp [generated, afterGeneration, afterValidation, GenerationReport.withStep,
      blank.failedEntities]
  have errors : (generator.generated model options report).generationErrors =
      (withoutFile options model.entities).map (Entity.failureMessage options) := by
    rw [EntityModel.errors_results]
    simp [generated, afterGeneration, afterValidation, GenerationReport.withStep,
      blank.generationErrors]
  have paired := model.files_results options
  have complete : (generatedFiles (model.results options)).length +
      (generator.generated model options report).failedEntities.length =
      model.entities.length := by
    rw [failed, List.length_map, ← paired.length_eq, length_withFile_add_length_withoutFile]
  exact
    { files := paired
      owner := fun _ _ => model.mem_generatedFiles_iff options
      names := model.nodup_generatedFiles options
      failedEntities := failed
      generationErrors := errors
      complete
      totalEntities := congrArg Int.ofNat (length_results model options)
      totalFiles := rfl
      totalLines := congrArg Int.ofNat (totalLines_generatedFiles model options)
      totalBytes := congrArg Int.ofNat (totalBytes_eq _) }

/-- What a run generates: nothing after a verdict that ends it, and otherwise the files of the
owners with exact accounts. -/
theorem accounts_of_reported (blank : report.IsBlank)
    (run : generator.reported model options directory tree report = .ok filled) :
    (generator.stops model = true ∧ filled.files = []) ∨
      (generator.stops model = false ∧ filled.Accounts model options ∧
        filled.files = generatedFiles (model.results options)) := by
  cases verdict : generator.stops model with
  | true =>
      rw [reported, verdict, if_pos rfl] at run
      cases run
      exact .inl ⟨rfl, blank.files⟩
  | false =>
      obtain ⟨steps, exportErrors, rfl⟩ :=
        afterExport_eq_ok ((reported_eq_ok_iff verdict).mp run).2
      exact .inr ⟨rfl, accounts_generated blank steps exportErrors, rfl⟩

end Generator

/-- The accounts of a report do not depend on its verdict. -/
theorem GenerationReport.Accounts.finished {report : GenerationReport} {model : EntityModel}
    {options : GeneratorOptions} (accounts : report.Accounts model options) :
    report.finished.Accounts model options :=
  { accounts with }

namespace Generator

theorem files_of_generate {generator : Generator} {model : EntityModel}
    {options : GeneratorOptions} {directory : Option Files.Path} {workspace after : Workspace}
    {report : GenerationReport}
    (run : generator.generate model options directory workspace = .ok report after) :
    (generator.stops model = true ∧ report.files = []) ∨
      (generator.stops model = false ∧ report.Accounts model options ∧
        report.files = generatedFiles (model.results options)) := by
  obtain ⟨start, filled, blank, came, rfl⟩ := exists_reported_of_generate run
  rcases accounts_of_reported blank came with ⟨stopped, none⟩ | ⟨ran, accounts, files⟩
  · exact .inl ⟨stopped, none⟩
  · exact .inr ⟨ran, accounts.finished, files⟩

/-- A run that is not stopped accounts for every entity.  Which files there are depends neither on
the entities that cannot be written nor on how warnings and the output are treated. -/
theorem accounts_of_generate {generator : Generator} {model : EntityModel}
    {options : GeneratorOptions} {directory : Option Files.Path} {workspace after : Workspace}
    {report : GenerationReport}
    (run : generator.generate model options directory workspace = .ok report after) :
    (generator.strict = true ∧ generator.accepts model.validate = false → report.files = []) ∧
    (generator.strict = false ∨ generator.accepts model.validate = true →
      report.Accounts model options ∧
      ∀ (lenient : Generator) (keep : Entity → Bool) (smaller : EntityModel)
        (elsewhere : Option Files.Path) (before later : Workspace) (other : GenerationReport),
        lenient.strict = false →
        (∀ entity ∈ model.entities, keep entity = false →
          ¬∃ code, entity.synthesize options = .ok code) →
        smaller.entities = model.entities.filter keep →
        lenient.generate smaller options elsewhere before = .ok other later →
        other.files = report.files) := by
  constructor
  · rintro ⟨strict, rejected⟩
    rcases files_of_generate run with ⟨_, none⟩ | ⟨ran, _⟩
    · exact none
    · rw [stops, strict, rejected] at ran
      cases ran
  · intro lets
    have ran : generator.stops model = false := by
      rw [stops]
      rcases lets with mild | accepted
      · rw [mild, Bool.false_and]
      · rw [accepted, Bool.not_true, Bool.and_false]
    rcases files_of_generate run with ⟨stopped, _⟩ | ⟨_, accounts, files⟩
    · cases ran.symm.trans stopped
    refine ⟨accounts, ?_⟩
    intro lenient keep smaller elsewhere before later other mild failing removed rerun
    rcases files_of_generate rerun with ⟨stopped, _⟩ | ⟨_, _, others⟩
    · rw [stops, mild] at stopped
      cases stopped
    · rw [others, files, model.generatedFiles_filter options removed failing]

/-- An entity without a name, and two entities with one class. -/
def rivalOrders : EntityModel where
  entities :=
    [ { entityNamespace := "Shop", entityClass := "" },
      { entityNamespace := "Shop", entityClass := "Order" },
      { entityNamespace := "Web", entityClass := "Order" } ]
  distinct := by decide

/-- The entity without a name takes no file name, the first order keeps the second one out. -/
theorem accounts_of_generate_rivalOrders :
    ∃ report after, ({} : Generator).generate rivalOrders {} none { tree := {} } =
        .ok report after ∧
      report.failedEntities = (["<unnamed>", "Order"] : List Text) ∧ report.totalFiles = 1 := by
  obtain ⟨report, after, run⟩ := exists_generate_of_none {}
    (rivalOrders.encodingFault?_of_undocumented {} rfl) { tree := {} }
  have accounts := ((accounts_of_generate run).2 (.inl rfl)).1
  have failed : report.failedEntities = (["<unnamed>", "Order"] : List Text) :=
    accounts.failedEntities.trans (by decide)
  have complete := accounts.complete
  rw [failed] at complete
  have files : report.files.length = 1 := Nat.add_right_cancel complete
  refine ⟨report, after, run, failed, ?_⟩
  rw [accounts.totalFiles, files]
  rfl

end Generator

end EntityForge
