import EntityForge.Proofs.Generation.FileNames

/-!
# What is written and what is reported

A run changes the file tree only by writing the files of its report, and only if there is a place
for them.  A report without an error of that step says how many files and bytes were written; that
they are where the report has them, and that nothing else happened, holds exactly if the tree had
room for them.
-/

namespace EntityForge

/-! ## What a run leaves behind -/

namespace Run

variable {α β : Type}

/-- The file tree that a run leaves behind, whatever comes out of it. -/
def left (run : Run α) (workspace : Workspace) : Files.Tree :=
  match run workspace with
  | .ok _ after => after.tree
  | .error _ after => after.tree

theorem left_eq_of_ok {run : Run α} {workspace after : Workspace} {value : α}
    (came : run workspace = .ok value after) : run.left workspace = after.tree := by
  rw [left, came]

theorem left_bind (run : Run α) (next : α → Run β) (workspace : Workspace) :
    Run.left (run >>= next) workspace =
      match run workspace with
      | .ok value after => (next value).left after
      | .error _ after => after.tree := by
  simp only [left, bind, EStateM.bind]
  cases run workspace with
  | ok value after => rfl
  | error fault after => rfl

theorem left_note_bind (entries : List LogEntry) (next : Unit → Run α) (workspace : Workspace) :
    Run.left (note entries >>= next) workspace =
      (next ()).left { workspace with log := workspace.log ++ entries } :=
  rfl

theorem left_bind_pure (run : Run α) (image : α → β) (workspace : Workspace) :
    Run.left (run >>= fun value => pure (image value)) workspace = run.left workspace := by
  rw [left_bind, left]
  cases run workspace with
  | ok value after => rfl
  | error fault after => rfl

end Run

/-- The tree that an action leaves behind, whatever comes out of it. -/
def Files.Action.left {α : Type} (action : Files.Action α) (tree : Files.Tree) : Files.Tree :=
  match action tree with
  | .ok _ after => after
  | .error _ after => after

namespace Generator

open Run

variable {generator : Generator} {model : EntityModel} {options : GeneratorOptions}
  {directory : Option Files.Path} {workspace after : Workspace} {report : GenerationReport}

theorem left_writeFiles (directory : Files.Path) (report : GenerationReport)
    (workspace : Workspace) :
    (writeFiles directory report).left workspace =
      (Files.Action.writeBatch directory true report.files).left workspace.tree := by
  rw [writeFiles, left_bind, Files.Action.left, attempt, onFiles]
  cases Files.Action.writeBatch directory true report.files workspace.tree with
  | ok written tree => rfl
  | error failure tree =>
      simp only
      split
      next => rfl
      next => rfl

theorem left_noteDryRun_bind (generator : Generator) (report : GenerationReport)
    {α : Type} (value : α) (workspace : Workspace) :
    Run.left (process.noteDryRun generator report >>= fun _ => pure value) workspace =
      workspace.tree := by
  rw [process.noteDryRun]
  split
  next => rfl
  next => rfl

/-- The file tree after the files of a run were written, if they are written at all. -/
def exportedTree (generator : Generator) (model : EntityModel) (options : GeneratorOptions)
    (directory : Option Files.Path) (tree : Files.Tree) : Files.Tree :=
  let files := generatedFiles (model.results options)
  if generator.stops model then tree
  else
    match encodingFault? files, generator.target? directory files with
    | none, some target => (Files.Action.writeBatch target true files).left tree
    | _, _ => tree

theorem left_process (generator : Generator) (model : EntityModel) (options : GeneratorOptions)
    (directory : Option Files.Path) (report : GenerationReport) (workspace : Workspace) :
    (generator.process model options directory report).left workspace =
      generator.exportedTree model options directory workspace.tree := by
  have files : (generator.generated model options report).files =
      generatedFiles (model.results options) := rfl
  rw [process, left_note_bind, exportedTree, stops]
  split
  next => rfl
  next =>
    rw [left_note_bind, ← generated, requireEncodable]
    dsimp only
    cases encodingFault? (generatedFiles (model.results options)) with
    | some fault => rfl
    | none =>
        rw [pure_bind, left_note_bind]
        cases directory with
        | none => rw [left_noteDryRun_bind, target?_none]
        | some directory =>
            dsimp only
            rw [target?, ← files]
            split
            next => rw [left_noteDryRun_bind]
            next => rw [left_bind_pure, left_writeFiles]

theorem left_generate (generator : Generator) (model : EntityModel) (options : GeneratorOptions)
    (directory : Option Files.Path) (workspace : Workspace) :
    (generator.generate model options directory).left workspace =
      match generator.opened directory workspace.tree with
      | .ok _ => generator.exportedTree model options directory workspace.tree
      | .error _ => workspace.tree := by
  rw [generate, left_bind, start_eq]
  cases generator.opened directory workspace.tree with
  | ok report => exact generator.left_process model options directory report workspace
  | error failure => rfl

/-- A run that has nothing to write, or no place for it, leaves the files alone. -/
theorem left_generate_eq (idle : directory = none ∨ generator.dryRun = true ∨
      generator.stops model = true ∨ generatedFiles (model.results options) = []) :
    (generator.generate model options directory).left workspace = workspace.tree := by
  rw [left_generate]
  split
  next =>
    rw [exportedTree]
    split
    next => rfl
    next runs =>
      have nowhere : generator.target? directory (generatedFiles (model.results options)) =
          none := by
        rw [target?]
        rcases idle with noDirectory | dry | stopped | noFiles
        · rw [noDirectory, ite_self]
        · rw [dry, Bool.true_or, if_pos rfl]
        · exact absurd stopped runs
        · rw [noFiles, List.isEmpty_nil, Bool.or_true, if_pos rfl]
      simp only [nowhere]
      split
      next impossible => cases impossible
      next => rfl
  next => rfl

/-- A report without an error of the last step tells of a batch that was written. -/
theorem exists_writeBatch_of_reported {target : Files.Path} {tree : Files.Tree}
    {filled : GenerationReport} (blank : report.IsBlank)
    (run : generator.reported model options (some target) tree report = .ok filled)
    (writes : generator.dryRun = false) (files : filled.files ≠ [])
    (noErrors : filled.exportErrors = []) :
    ∃ written generated,
      Files.Action.writeBatch target true filled.files tree =
        .ok written (generator.exportedTree model options (some target) tree) ∧
      filled = afterWrite written generated := by
  obtain ⟨runs, same⟩ : generator.stops model = false ∧
      filled.files = generatedFiles (model.results options) := by
    rcases accounts_of_reported blank run with ⟨_, none⟩ | ⟨runs, _, same⟩
    · exact absurd none files
    · exact ⟨runs, same⟩
  have somewhere : generator.target? (some target) filled.files = some target := by
    rw [target?, writes, Bool.false_or, List.isEmpty_eq_false_iff.mpr files,
      if_neg Bool.false_ne_true]
  have generatedSame : (generator.generated model options report).files = filled.files :=
    same.symm
  obtain ⟨encodable, run⟩ := (reported_eq_ok_iff runs).mp run
  rw [afterExport, generatedSame, somewhere] at run
  rw [exportedTree, runs, if_neg Bool.false_ne_true, encodable, ← same, somewhere]
  dsimp only at run ⊢
  rw [exported, generatedSame] at run
  rw [Files.Action.left]
  cases wrote : Files.Action.writeBatch target true filled.files tree with
  | ok written after =>
      rw [wrote] at run
      cases run
      exact ⟨written, _, rfl, rfl⟩
  | error failure after =>
      rw [wrote] at run
      simp only at run
      split at run
      next =>
        cases run
        exact absurd (List.append_eq_nil_iff.mp noErrors).2 (List.cons_ne_nil _ _)
      next => cases run

theorem exists_writeBatch_of_generate {target : Files.Path}
    (run : generator.generate model options (some target) workspace = .ok report after)
    (writes : generator.dryRun = false) (files : report.files ≠ [])
    (noErrors : report.exportErrors = []) :
    ∃ written generated,
      Files.Action.writeBatch target true report.files workspace.tree =
        .ok written after.tree ∧
      report = (afterWrite written generated).finished := by
  obtain ⟨start, filled, blank, came, rfl⟩ := exists_reported_of_generate run
  obtain ⟨written, generated, wrote, rfl⟩ :=
    exists_writeBatch_of_reported blank came writes files noErrors
  refine ⟨written, generated, ?_, rfl⟩
  rw [← left_eq_of_ok run, left_generate]
  cases opening : generator.opened (some target) workspace.tree with
  | ok blank => exact wrote
  | error failure =>
      rw [generate] at run
      simp only [bind, EStateM.bind, start_eq, opening] at run
      cases run

/-- A batch that can be written is reported without an error of that step. -/
theorem exists_generate_of_writeBatch {target : Files.Path} {blank : GenerationReport}
    {written : Files.Written} {left : Files.Tree}
    (opening : generator.opened (some target) workspace.tree = .ok blank)
    (runs : generator.stops model = false)
    (encodable : encodingFault? (generatedFiles (model.results options)) = none)
    (somewhere : generator.target? (some target) (generatedFiles (model.results options)) =
      some target)
    (wrote : Files.Action.writeBatch target true (generatedFiles (model.results options))
      workspace.tree = .ok written left) :
    ∃ report after,
      generator.generate model options (some target) workspace = .ok report after ∧
      report.exportErrors = [] ∧ report.files = generatedFiles (model.results options) := by
  have isBlank := isBlank_of_opened opening
  have files : (generator.generated model options blank).files =
      generatedFiles (model.results options) := rfl
  have reports : generator.reported model options (some target) workspace.tree blank =
      .ok (afterWrite written (generator.generated model options blank)) := by
    rw [reported_eq_ok_iff runs, afterExport, files, somewhere]
    dsimp only
    rw [exported, files, wrote]
    exact ⟨encodable, rfl⟩
  have came : (generator.generate model options (some target)).outcome workspace =
      .ok (afterWrite written (generator.generated model options blank)).finished := by
    rw [outcome_generate, opening, Except.mapError, Except.bind, reports]
    rfl
  obtain ⟨after, run⟩ := outcome_eq_ok_iff.mp came
  exact ⟨_, after, run, isBlank.exportErrors, rfl⟩

end Generator

/-! ## The report and the files -/

/-- Whether a report without an error of the last step is true of the trees before and after it:
it counts what it has, and it has what is there exactly if there was room for it. -/
structure GenerationReport.Exports (report : GenerationReport) (options : GeneratorOptions)
    (target : Files.Path) (before after : Files.Tree) : Prop where
  counted : ∃ written : Files.Written,
    report.steps.getLast? = some
      { name := Generator.writeStep
        success := true
        detail := s!"{written.files} files, " ++ Decimal.grouped written.bytes ++ " bytes" } ∧
    report.totalFiles = written.files ∧ report.totalBytes = written.bytes
  delivers_iff :
    before.Delivers target report.files after ↔ before.HasRoom target report.files
  /-- Usually there is room but for a directory under the name of a file. -/
  hasRoom_iff : .scalar '/' ∉ options.fileExtension.toList → (".." : Text) ∉ target.parts →
    (before.HasRoom target report.files ↔
      ∀ file ∈ report.files,
        before.at? (target.place before.workingDirectory ++ [file.1]) ≠ some .directory)
  /-- Nothing that stands elsewhere is lost, room or not. -/
  kept : ∀ place content, before.at? place = some content →
    (∀ file ∈ report.files,
      place ≠ (Files.target target file).place before.workingDirectory) →
    after.at? place = some content

namespace Generator

variable {generator : Generator} {model : EntityModel} {options : GeneratorOptions}
  {workspace after : Workspace} {report : GenerationReport}

theorem exports_of_generate {target : Files.Path}
    (run : generator.generate model options (some target) workspace = .ok report after)
    (writes : generator.dryRun = false) (files : report.files ≠ [])
    (noErrors : report.exportErrors = [])
    (rooted : (".." : Text) ∉ workspace.tree.workingDirectory) :
    report.Exports options target workspace.tree after.tree := by
  obtain ⟨written, generated, wrote, shape⟩ :=
    exists_writeBatch_of_generate run writes files noErrors
  obtain ⟨collects, filesCount, bytesCount⟩ :=
    Files.Action.collects_of_writeBatch rooted wrote
  have accounts : report.Accounts model options := by
    rcases files_of_generate run with ⟨_, none⟩ | ⟨_, accounts, _⟩
    · exact absurd none files
    · exact accounts
  constructor
  case counted =>
    refine ⟨written, ?_, ?_, ?_⟩
    · rw [shape]
      exact List.getLast?_concat
    · rw [accounts.totalFiles, filesCount]
    · rw [accounts.totalBytes, bytesCount]
      simp only [Text.Utf8.length_encode]
  case delivers_iff => exact collects.delivers_iff
  case hasRoom_iff =>
    intro noSlash plain
    apply Files.Tree.hasRoom_iff plain ?_ accounts.names
    intro (name, code) member
    obtain ⟨entity, owner, _⟩ := (accounts.owner name code).mp member
    rw [← (owner?_eq_some owner).2.2]
    obtain ⟨isPart, notAbove⟩ := entity.isPart_fileName options
    refine ⟨Files.Path.ofText_eq_singleton ?_ isPart, notAbove⟩
    rw [entity.mem_fileName_iff (by decide)]
    exact noSlash
  case kept => exact fun place content => collects.at?_eq_some

/-- A run without a place for its files or without files leaves the tree alone, and its files do
not depend on whether and where they are written.  A report without an error of the last step
counts the files rightly, and they are there, with nothing else changed, exactly if the tree had
room for them. -/
theorem export_of_generate (generator : Generator) (model : EntityModel)
    (options : GeneratorOptions) (directory : Option Files.Path) (workspace : Workspace) :
    (directory = none ∨ generator.dryRun = true ∨
        (generator.strict = true ∧ generator.accepts model.validate = false) ∨
        generatedFiles (model.results options) = [] →
      (generator.generate model options directory).left workspace = workspace.tree) ∧
    ∀ report after, generator.generate model options directory workspace = .ok report after →
      (∀ (dryRun : Bool) (elsewhere : Option Files.Path) (before later : Workspace)
        (other : GenerationReport),
        ({ generator with dryRun } : Generator).generate model options elsewhere before =
          .ok other later →
        other.files = report.files) ∧
      ∀ target, directory = some target → generator.dryRun = false → report.files ≠ [] →
        report.exportErrors = [] → (".." : Text) ∉ workspace.tree.workingDirectory →
        report.Exports options target workspace.tree after.tree := by
  constructor
  · intro idle
    apply left_generate_eq
    refine idle.imp_right (Or.imp_right (Or.imp_left ?_))
    rintro ⟨strict, rejected⟩
    rw [stops, strict, rejected]
    rfl
  · intro report after run
    constructor
    · intro dryRun elsewhere before later other rerun
      have files := files_of_generate run
      have others := files_of_generate rerun
      have sameVerdict : ({ generator with dryRun } : Generator).stops model =
          generator.stops model := rfl
      rw [sameVerdict] at others
      rcases files with ⟨stopped, files⟩ | ⟨runs, _, files⟩
      · rcases others with ⟨_, others⟩ | ⟨runs, _⟩
        · rw [others, files]
        · cases stopped.symm.trans runs
      · rcases others with ⟨stopped, _⟩ | ⟨_, _, others⟩
        · cases runs.symm.trans stopped
        · rw [others, files]
    · intro target chosen writes files noErrors rooted
      subst chosen
      exact exports_of_generate run writes files noErrors rooted

end Generator

/-- A directory with an older order beside another file. -/
def Files.shelf : Files.Tree where
  nodes :=
    [ (["shop"], .directory), (["shop", "Order.cs"], .file [10]),
      (["shop", "Item.cs"], .file [10]) ]
  workingDirectory := ["shop"]

namespace Files.Action

theorem exists_writeBatch_shelf {code : Text}
    (encodable : Text.Utf8.encodingFault? code = none) :
    ∃ written after,
      writeBatch (.ofText ".") true [("Order.cs", code)] shelf = .ok written after := by
  have ensured : ensureDirectory ⟨"", []⟩ shelf = .ok () shelf := by
    rw [ensureDirectory_eq]
    rfl
  have takes : shelf.Takes ⟨"", ["Order.cs"]⟩ ["shop", "Order.cs"] := ⟨rfl, by decide⟩
  have replaced : replaceFile ⟨"", ["Order.cs"]⟩ (Text.Utf8.encode code) shelf =
      .ok () (shelf.put ["shop", "Order.cs"] (.file (Text.Utf8.encode code))) :=
    (replaceFile_eq_ok_iff (by decide)).mpr ⟨rfl, _, .inl takes, rfl⟩
  have written : ∃ after, writeFile ⟨"", ["Order.cs"]⟩ code true shelf =
      .ok (Text.Utf8.encode code).length after := by
    rw [writeFile_eq]
    exact ⟨_, bind_eq_ok_iff.mpr ⟨(), _, ensured, bind_eq_ok_iff.mpr
      ⟨_, _, Device.bytesOf_eq_ok_iff.mpr ⟨encodable, rfl, rfl⟩,
        bind_eq_ok_iff.mpr ⟨(), _, replaced, rfl⟩⟩⟩⟩
  obtain ⟨after, written⟩ := written
  exact ⟨⟨1, 0 + (Text.Utf8.encode code).length⟩, after, bind_eq_ok_iff.mpr ⟨_, _, written, rfl⟩⟩

end Files.Action

namespace Generator

/-- A new order takes the place of the older one, and the other file stays. -/
theorem export_of_generate_shelf :
    ∃ report after,
      ({} : Generator).generate singleOrder {} (some (.ofText "."))
        { tree := Files.shelf } = .ok report after ∧
      report.exportErrors = [] ∧
      Files.shelf.Delivers (.ofText ".") report.files after.tree ∧
      after.tree.at? ["shop", "Item.cs"] = some (.file [10]) := by
  have valid : (Entity.orderKeyedOn "id").IsValid := by
    unfold Entity.IsValid
    decide
  obtain ⟨code, written⟩ := Entity.exists_synthesize_of_isQualifiedName {} valid (by decide)
  have files : generatedFiles (singleOrder.results {}) =
      ([("Order.cs", code)] : List (Text × Text)) := by
    have fileName : (Entity.orderKeyedOn "id").fileName {} = "Order.cs" := by decide
    simp [EntityModel.results, singleOrder, entityResults, Entity.outcome, written, fileName,
      generatedFiles, EntityResult.file?]
  have encodable := singleOrder.encodingFault?_of_undocumented {} rfl
  have codeEncodable : Text.Utf8.encodingFault? code = none := by
    rw [files] at encodable
    exact List.findSome?_eq_none_iff.mp encodable _ (List.mem_singleton_self _)
  obtain ⟨counts, tree, wrote⟩ := Files.Action.exists_writeBatch_shelf codeEncodable
  have run : ∃ report after,
      ({} : Generator).generate singleOrder {} (some (.ofText "."))
        { tree := Files.shelf } = .ok report after ∧
      report.exportErrors = [] ∧
      report.files = ([("Order.cs", code)] : List (Text × Text)) := by
    rw [← files] at wrote ⊢
    have somewhere : ({} : Generator).target? (some (.ofText "."))
        (generatedFiles (singleOrder.results {})) = some (.ofText ".") := by
      rw [files]
      rfl
    exact exists_generate_of_writeBatch rfl rfl encodable somewhere wrote
  obtain ⟨report, after, run, noErrors, filesReported⟩ := run
  have nonempty : report.files ≠ [] := by
    rw [filesReported]
    exact List.cons_ne_nil _ _
  have told := (export_of_generate {} singleOrder {} (some (.ofText "."))
    { tree := Files.shelf }).2 report after run
  have exports := told.2 (.ofText ".") rfl rfl nonempty noErrors (by decide)
  have room : Files.shelf.HasRoom (.ofText ".") report.files := by
    rw [exports.hasRoom_iff (by decide) (by decide), filesReported]
    refine List.forall_mem_singleton.mpr ?_
    change Files.shelf.at? ["shop", "Order.cs"] ≠ some .directory
    decide
  have kept : after.tree.at? ["shop", "Item.cs"] = some (.file [10]) := by
    apply exports.kept ["shop", "Item.cs"] (.file [10]) (by decide)
    rw [filesReported]
    refine List.forall_mem_singleton.mpr ?_
    have path : Files.Path.ofText "Order.cs" = ⟨"", ["Order.cs"]⟩ :=
      Files.Path.ofText_eq_singleton (by decide) (by decide)
    dsimp only [Files.target]
    rw [path]
    decide
  exact ⟨report, after, run, noErrors, exports.delivers_iff.mpr room, kept⟩

end Generator

end EntityForge
