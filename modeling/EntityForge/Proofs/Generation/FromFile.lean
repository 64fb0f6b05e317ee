import EntityForge.Proofs.Files.Writing
import EntityForge.Proofs.Generation.FileNames
import EntityForge.Proofs.Generation.Outcomes
import EntityForge.Proofs.Generation.Process
import EntityForge.Proofs.Identifier.Alphabet
import EntityForge.Proofs.ModelFile.Parse

/-!
# Runs from a model file

A run from a file ends with a report in all cases but four: the file is refused with a fault that
is none of its content, the walk over the raw entities stops, a generated file cannot be encoded, or
the way to it cannot be followed.
-/

namespace EntityForge

/-! ## Reading runs -/

namespace Run

variable {α β : Type}

/-- A run that looks at the file tree and changes nothing but the log. -/
def Reads (run : Run α) (result : Files.Tree → Except RunFault α) : Prop :=
  ∀ workspace, ∃ log, run workspace =
    match result workspace.tree with
    | .ok value => .ok value { workspace with log }
    | .error fault => .error fault { workspace with log }

namespace Reads

theorem pure (value : α) : Reads (Pure.pure value) fun _ => .ok value :=
  fun workspace => ⟨workspace.log, rfl⟩

theorem throw (fault : RunFault) : Reads (MonadExcept.throw fault : Run α) fun _ => .error fault :=
  fun workspace => ⟨workspace.log, rfl⟩

theorem note (entries : List LogEntry) : Reads (Run.note entries) fun _ => .ok () :=
  fun workspace => ⟨workspace.log ++ entries, rfl⟩

theorem ofExcept {ε : Type} (fault : ε → RunFault) (outcome : Except ε α) :
    Reads (Run.ofExcept fault outcome) fun _ => outcome.mapError fault := by
  cases outcome with
  | ok value => exact .pure value
  | error error => exact .throw (fault error)

theorem bind {run : Run α} {next : α → Run β} {result : Files.Tree → Except RunFault α}
    {later : α → Files.Tree → Except RunFault β} (first : Reads run result)
    (rest : ∀ value, Reads (next value) (later value)) :
    Reads (run >>= next) fun tree => (result tree).bind fun value => later value tree := by
  intro workspace
  obtain ⟨log, ran⟩ := first workspace
  simp only [Bind.bind, EStateM.bind, ran]
  cases result workspace.tree with
  | ok value => exact rest value { workspace with log }
  | error fault => exact ⟨log, rfl⟩

/-- A run that begins with a look at the file tree. -/
theorem get_bind {next : Workspace → Run α} {result : Files.Tree → Except RunFault α}
    (rest : ∀ workspace, Reads (next workspace) fun _ => result workspace.tree) :
    Reads (get >>= next) result :=
  fun workspace => rest workspace workspace

/-- A note is all that comes of a condition. -/
theorem note_if_bind {entries : List LogEntry} {condition : Bool} {next : Run α}
    {result : Files.Tree → Except RunFault α} (rest : Reads next result) :
    Reads (if condition then Run.note entries >>= fun _ => next else next) result := by
  split
  next => exact (note entries).bind fun _ => rest
  next => exact rest

end Reads

end Run

namespace Generator

open Run

/-! ## Loading -/

/-- The model and the options of content, with settings laid over the options. -/
def settled (overrides : List (Data × Data)) (content : List (Data × Data)) :
    Except RunFault (EntityModel × GeneratorOptions) :=
  ((ModelFile.parse content).mapError .content).bind fun (model, options) =>
    if overrides.isEmpty then .ok (model, options)
    else
      match options.override overrides with
      | .valid options => .ok (model, options)
      | .invalid issues => .error (.options issues)

/-- The model and the options of a file, with settings laid over the options. -/
def loaded (path : Files.Path) (overrides : List (Data × Data)) (tree : Files.Tree) :
    Except RunFault (EntityModel × GeneratorOptions) :=
  ((ModelFile.load tree path).mapError .load).bind (settled overrides)

theorem loaded_of_ok {path : Files.Path} {overrides content : List (Data × Data)}
    {tree : Files.Tree} (load : ModelFile.load tree path = .ok content) :
    loaded path overrides tree = settled overrides content := by
  rw [loaded, load]
  rfl

theorem loaded_of_error {path : Files.Path} {overrides : List (Data × Data)} {tree : Files.Tree}
    {fault : ModelFile.LoadFault} (load : ModelFile.load tree path = .error fault) :
    loaded path overrides tree = .error (.load fault) := by
  rw [loaded, load]
  rfl

theorem reads_loadContent (path : Files.Path) :
    Reads (loadContent path) fun tree => (ModelFile.load tree path).mapError .load := by
  apply Reads.get_bind
  intro workspace
  exact .note_if_bind (.ofExcept _ _)

theorem reads_parseContent (content : List (Data × Data)) :
    Reads (parseContent content) fun _ => (ModelFile.parse content).mapError .content :=
  .note_if_bind (.ofExcept _ _)

theorem reads_loadModel (path : Files.Path) (overrides : List (Data × Data)) :
    Reads (loadModel path overrides) (loaded path overrides) := by
  apply (reads_loadContent path).bind
  intro content
  apply (reads_parseContent content).bind
  intro (model, options)
  dsimp only
  cases overrides.isEmpty with
  | true => exact .pure (model, options)
  | false =>
      cases options.override overrides with
      | valid settings => exact .pure (model, settings)
      | invalid issues => exact .throw (.options issues)

/-- Content that gives no settings is told in the report unless the walk over its entities stops. -/
theorem isReported_of_settled {overrides content : List (Data × Data)} {fault : RunFault}
    (refused : settled overrides content = .error fault) :
    fault.isReported = true ↔ ModelFile.HasWalkableEntities content := by
  rw [← not_iff_not, ← ModelFile.exists_parse_eq_reference_iff]
  rw [settled] at refused
  cases parsed : ModelFile.parse content with
  | error found =>
      rw [parsed] at refused
      cases refused
      cases found with
      | reference stopped => exact iff_of_true Bool.false_ne_true ⟨stopped, rfl⟩
      | _ => exact iff_of_false (not_not_intro rfl) nofun
  | ok settings =>
      rw [parsed] at refused
      simp only [Except.mapError, Except.bind] at refused
      refine iff_of_false (not_not_intro ?_) nofun
      split at refused
      next => cases refused
      next =>
        split at refused
        next => cases refused
        next =>
          cases refused
          rfl

theorem hasWalkableEntities_of_settled {overrides content : List (Data × Data)}
    {settings : EntityModel × GeneratorOptions}
    (run : settled overrides content = .ok settings) : ModelFile.HasWalkableEntities content := by
  by_contra stops
  obtain ⟨fault, refused⟩ := ModelFile.exists_parse_eq_reference_iff.mpr stops
  rw [settled, refused] at run
  cases run

/-! ## Ends of a run -/

/-- Whether the files of a run can be encoded, and are written without a path that cannot be
followed. -/
structure Passes (generator : Generator) (model : EntityModel) (options : GeneratorOptions)
    (directory : Option Files.Path) (tree : Files.Tree) : Prop where
  encodable : ∀ entity ∈ withFile options model.entities, entity.IsEncodable options.document
  followable : ∀ target ∈ generator.target? directory (generatedFiles (model.results options)),
    ∀ failure after,
      Files.Action.writeBatch target true (generatedFiles (model.results options)) tree =
        .error failure after →
      failure.isSystemFailure = true

theorem exists_exported_iff {directory : Files.Path} {tree : Files.Tree}
    {report : GenerationReport} :
    (∃ filled, exported directory tree report = .ok filled) ↔
      ∀ failure after,
        Files.Action.writeBatch directory true report.files tree = .error failure after →
        failure.isSystemFailure = true := by
  rw [exported]
  cases Files.Action.writeBatch directory true report.files tree with
  | ok written after => simp
  | error failure after => cases system : failure.isSystemFailure <;> simp [system]

/-- A model has its report unless files that are generated for it keep the run from its end. -/
theorem exists_reported_iff {generator : Generator} {model : EntityModel}
    {options : GeneratorOptions} {directory : Option Files.Path} {tree : Files.Tree}
    {report : GenerationReport} :
    (∃ filled, generator.reported model options directory tree report = .ok filled) ↔
      generator.stops model = true ∨ generator.Passes model options directory tree := by
  cases runs : generator.stops model with
  | true =>
      rw [reported, runs, if_pos rfl]
      exact iff_of_true ⟨_, rfl⟩ (.inl rfl)
  | false =>
      have files : (generator.generated model options report).files =
          generatedFiles (model.results options) := rfl
      have exports : (∃ filled, generator.afterExport directory tree
          (generator.generated model options report) = .ok filled) ↔
            ∀ target ∈ generator.target? directory (generatedFiles (model.results options)),
              ∀ failure after,
                Files.Action.writeBatch target true (generatedFiles (model.results options))
                  tree = .error failure after →
                failure.isSystemFailure = true := by
        rw [afterExport, files]
        cases generator.target? directory (generatedFiles (model.results options)) with
        | none => simp
        | some target => simp [exists_exported_iff, files]
      simp only [reported_eq_ok_iff runs, exists_and_left, Bool.false_eq_true, false_or, exports,
        EntityModel.encodingFault?_eq_none_iff]
      exact ⟨fun both => ⟨both.1, both.2⟩, fun passes => ⟨passes.encodable, passes.followable⟩⟩

theorem exists_finished_iff {generator : Generator} {model : EntityModel}
    {options : GeneratorOptions} {directory : Option Files.Path} {tree : Files.Tree}
    {report : GenerationReport} :
    (∃ filled, (generator.reported model options directory tree report).map
        GenerationReport.finished = .ok filled) ↔
      generator.stops model = true ∨ generator.Passes model options directory tree := by
  refine Iff.trans ?_ (exists_reported_iff :
    (∃ filled, generator.reported model options directory tree report = .ok filled) ↔ _)
  cases generator.reported model options directory tree report with
  | ok filled => simp [Except.map]
  | error failure => simp [Except.map]

theorem mem_of_mem_target? {generator : Generator} {directory : Option Files.Path}
    {files : List (Text × Text)} {target : Files.Path}
    (member : target ∈ generator.target? directory files) : target ∈ directory := by
  rw [target?] at member
  split at member
  next => cases member
  next => exact member

/-- File names are plain if the extension is. -/
theorem isPlainText_fileName {entity : Entity} {options : GeneratorOptions}
    (plain : .scalar '\x00' ∉ options.fileExtension.toList) :
    Files.IsPlainText (entity.fileName options) := by
  intro point member
  cases point with
  | scalar character =>
      have other : character ≠ '\x00' := by
        rintro rfl
        exact plain ((entity.mem_fileName_iff (by decide)).mp member)
      simp [Files.isPlainPoint, Point.isSurrogate, other]
  | surrogate half =>
      have inExtension := (entity.mem_fileName_iff (isIdentifierPart_surrogate half)).mp member
      cases Text.isEncodable_iff.mp options.fileExtension_encodable _ inExtension

/-- Where the directories have paths, the null character in the file extension is all that makes a
path to a file that cannot be followed. -/
theorem passes_iff {generator : Generator} {model : EntityModel} {options : GeneratorOptions}
    {directory : Option Files.Path} {tree : Files.Tree} (plainTree : tree.IsPlain)
    (plainDirectory : ∀ given ∈ directory, given.IsPlain)
    (plainExtension : .scalar '\x00' ∉ options.fileExtension.toList) :
    generator.Passes model options directory tree ↔
      ∀ entity ∈ withFile options model.entities, entity.IsEncodable options.document := by
  refine ⟨Passes.encodable, fun documented => ⟨documented, ?_⟩⟩
  have encodable := (model.encodingFault?_eq_none_iff options).mpr documented
  intro target chosen failure after failed
  have plainTarget := plainDirectory target (mem_of_mem_target? chosen)
  have plainFiles : ∀ file ∈ generatedFiles (model.results options),
      Files.IsPlainText file.1 ∧ file.2.isEncodable = true := by
    intro (name, code) member
    obtain ⟨entity, owns, _⟩ := (model.mem_generatedFiles_iff options).mp member
    constructor
    · rw [← (owner?_eq_some owns).2.2]
      exact isPlainText_fileName plainExtension
    · exact Text.Utf8.encodingFault?_eq_none_iff.mp
        (List.findSome?_eq_none_iff.mp encodable _ member)
  exact (Files.Action.avoids_writeBatch plainTarget true plainFiles).isSystemFailure plainTree
    failed

/-- A run begins exactly if the path of its directory can be followed. -/
theorem exists_opened_iff {generator : Generator} {directory : Option Files.Path}
    {tree : Files.Tree} :
    (∃ report, generator.opened directory tree = .ok report) ↔
      ∀ given ∈ directory, given.IsPlain := by
  cases directory with
  | none => simp [opened]
  | some given =>
      simp only [opened, Files.Tree.resolve, Option.mem_def, Option.some.injEq, forall_eq',
        Files.Path.isPlain_iff, ← Files.fault?_eq_none_iff]
      cases given.fault? with
      | none => simp [Except.map]
      | some failure => simp [Except.map]

/-- The report on a file that gives no model. -/
def refused (fault : RunFault) (report : GenerationReport) : GenerationReport :=
  ({ report with generationErrors := [fault.message] }.withStep "Load Model" false
    fault.message).finished

/-- A run from a file loads the model and goes on as for a model that is given to it. -/
theorem outcome_generateFromFile (generator : Generator) (path : Files.Path)
    (directory : Option Files.Path) (overrides : List (Data × Data)) (workspace : Workspace) :
    (generator.generateFromFile path directory overrides).outcome workspace =
      match generator.opened directory workspace.tree, loaded path overrides workspace.tree with
      | .error failure, _ => .error (.files failure)
      | .ok report, .ok (model, options) =>
          let begun := report.withStep "Load Model" true
            (s!"{model.entities.length} entities from " ++ path.name)
          (generator.reported model options directory workspace.tree begun).map
            GenerationReport.finished
      | .ok report, .error fault =>
          if fault.isReported then .ok (refused fault report) else .error fault := by
  rw [generateFromFile, outcome_bind, start_eq]
  cases generator.opened directory workspace.tree with
  | error failure => rfl
  | ok report =>
      obtain ⟨log, ran⟩ := reads_loadModel path overrides workspace
      simp only [outcome_bind, attempt, ran]
      cases loaded path overrides workspace.tree with
      | ok settings =>
          obtain ⟨model, options⟩ := settings
          exact outcome_process generator model options directory _ _
      | error fault =>
          dsimp only
          split
          next => rfl
          next => rfl

/-- A run from a file ends with a report exactly if its directory has a path, the file is not
refused for other reasons than its content, and neither the walk over the entities nor a generated
file keeps it from its end. -/
theorem exists_generateFromFile_iff {generator : Generator} {path : Files.Path}
    {directory : Option Files.Path} {overrides : List (Data × Data)} {workspace : Workspace} :
    (∃ report after,
        generator.generateFromFile path directory overrides workspace = .ok report after) ↔
      (∀ given ∈ directory, given.IsPlain) ∧
        (∀ fault, ModelFile.load workspace.tree path = .error fault → fault.isReported = true) ∧
        ∀ content, ModelFile.load workspace.tree path = .ok content →
          ModelFile.HasWalkableEntities content ∧
            ∀ model options, settled overrides content = .ok (model, options) →
              generator.stops model = true ∨
                generator.Passes model options directory workspace.tree := by
  rw [← exists_opened_iff]
  simp only [← outcome_eq_ok_iff, outcome_generateFromFile]
  cases generator.opened directory workspace.tree with
  | error failure => simp
  | ok report =>
      cases load : ModelFile.load workspace.tree path with
      | error fault =>
          have told : (RunFault.load fault).isReported = fault.isReported := rfl
          rw [loaded_of_error load]
          cases reported : fault.isReported with
          | true => simp [told, reported]
          | false => simp [told, reported]
      | ok content =>
          rw [loaded_of_ok load]
          cases result : settled overrides content with
          | error fault =>
              have told := isReported_of_settled result
              cases reported : fault.isReported with
              | true => simp [reported, told.mp reported, result]
              | false => simp [reported, ← told]
          | ok settings =>
              obtain ⟨model, options⟩ := settings
              have walkable := hasWalkableEntities_of_settled result
              simp [result, walkable, exists_finished_iff]

/-- What comes of malformed input.  Content is refused by the walk exactly if its entities cannot be
walked over.  It gives the model and the options that are read from its expanded entities, which are
those that it is written for unless relationships are hollow.  A run from a file ends with a report
exactly if the file is not refused for other reasons than its content, its entities can be walked
over, and its files pass unless the run is stopped before.  They pass if the documentation has only
texts that can be encoded, and directories and file extension bring no other faulty path in. -/
theorem contract_of_input (generator : Generator) (path : Files.Path)
    (directory : Option Files.Path) (overrides : List (Data × Data)) (workspace : Workspace)
    {content : List (Data × Data)} (proper : (Data.map content).isProper = true) :
    ((∃ fault, ModelFile.parse content = .error (.reference fault)) ↔
      ¬ModelFile.HasWalkableEntities content) ∧
    (∀ model options, ModelFile.parse content = .ok (model, options) ↔
      ∃ entities, ModelFile.entities? content = some entities ∧
        EntityModel.read (ModelFile.expandedModel entities) = .valid model ∧
        GeneratorOptions.read ((ModelFile.options? content).getD (.map [])) = .valid options) ∧
    (∀ model options, ModelFile.Denotes content model options ↔
      ModelFile.parse content = .ok (model, options) ∧
        ∀ entities, ModelFile.entities? content = some entities →
          ∀ raw ∈ entities, ¬ModelFile.HasHollowRelationships raw) ∧
    ((∃ report after,
        generator.generateFromFile path directory overrides workspace = .ok report after) ↔
      (∀ given ∈ directory, given.IsPlain) ∧
        (∀ fault, ModelFile.load workspace.tree path = .error fault → fault.isReported = true) ∧
        ∀ loaded, ModelFile.load workspace.tree path = .ok loaded →
          ModelFile.HasWalkableEntities loaded ∧
            ∀ model options, settled overrides loaded = .ok (model, options) →
              generator.stops model = true ∨
                generator.Passes model options directory workspace.tree) ∧
    (∀ model options, workspace.tree.IsPlain → (∀ given ∈ directory, given.IsPlain) →
      .scalar '\x00' ∉ options.fileExtension.toList →
        (generator.Passes model options directory workspace.tree ↔
          ∀ entity ∈ withFile options model.entities, entity.IsEncodable options.document)) :=
  ⟨ModelFile.exists_parse_eq_reference_iff, fun _ _ => ModelFile.parse_eq_ok_iff proper,
    fun _ _ => ModelFile.denotes_iff proper, exists_generateFromFile_iff,
    fun _ _ => passes_iff⟩

/-- An entity whose class is a list of names. -/
def listedOrder : List (Data × Data) :=
  [ (.text "entities", .list
      [ .map
          [ (.text "entity_namespace", .text "Shop"),
            (.text "entity_class", .list [.text "Order"]) ] ]) ]

theorem contract_of_input_listedOrder :
    (Data.map listedOrder).isProper = true ∧
      ∃ fault, ModelFile.parse listedOrder = .error (.reference fault) := by
  have proper : (Data.map listedOrder).isProper = true := by decide
  have stops : ¬ModelFile.HasWalkableEntities listedOrder := by
    intro walkable
    have usable := (walkable _ rfl _ List.mem_cons_self).1
    cases usable rfl
  have contract := contract_of_input {} {} none [] { tree := {} } proper
  exact ⟨proper, contract.1.mpr stops⟩

end Generator

end EntityForge
