import EntityForge.Proofs.CommandLine.ExitCodes

/-!
# Exit codes for rejected files

A model file whose content is rejected is told of in the same words in every mode, and nothing is
written.  A validation then ends with the exit code of input errors.  A generation puts the fault
into its report, among the errors of the generation, and ends with the exit code of these.
-/

namespace EntityForge

open EntityForge.CommandLine

/-! ## The generator -/

namespace Generator

open Run

variable {path : Files.Path} {tree : Files.Tree} {fault : RunFault}

/-- A rejected file gives no settings either, whatever is laid over its options. -/
theorem loaded_of_modelOf_eq_error (rejected : modelOf path tree = .error fault)
    (overrides : List (Data × Data)) : loaded path overrides tree = .error fault := by
  rw [modelOf] at rejected
  cases load : ModelFile.load tree path with
  | error failure =>
      rw [load] at rejected
      rw [loaded_of_error load]
      cases rejected
      rfl
  | ok content =>
      rw [load] at rejected
      rw [loaded_of_ok load, settled]
      cases parsed : ModelFile.parse content with
      | error failure =>
          simp only [Except.mapError, Except.bind, parsed] at rejected
          cases rejected
          rfl
      | ok settings =>
          simp only [Except.mapError, Except.bind, parsed] at rejected
          cases rejected

/-- The entry of the log on a file that gives no model. -/
def rejection (source : LogSource) (fault : RunFault) : LogEntry :=
  ⟨.error, source, "Failed to load model: " ++ fault.message⟩

theorem generateFromFile_of_rejected {generator : Generator} {directory : Option Files.Path}
    {overrides : List (Data × Data)} {report : GenerationReport}
    (opens : generator.opened directory tree = .ok report)
    (rejected : loaded path overrides tree = .error fault) (isReported : fault.isReported = true)
    (log : List LogEntry) :
    ∃ read, generator.generateFromFile path directory overrides ⟨tree, log⟩ =
      .ok (refused fault report) ⟨tree, read ++ [rejection .generator fault]⟩ := by
  have started := generator.start_eq directory ⟨tree, log⟩
  dsimp only at started
  rw [opens] at started
  obtain ⟨read, ran⟩ := (reads_loadModel path overrides).attempt_bind _ tree log
  refine ⟨read, ?_⟩
  rw [generateFromFile, bind_eq_of_ok started, ran, rejected]
  dsimp only
  rw [if_pos isReported]
  rfl

end Generator

/-! ## The program -/

namespace CommandLine

open EntityForge.Generator EntityForge.Run

variable {path : Files.Path} {tree : Files.Tree} {fault : RunFault}

theorem validateOnly_of_rejected (rejected : modelOf path tree = .error fault)
    (isReported : fault.isReported = true) (log : List LogEntry) :
    ∃ read, validateOnly path ⟨tree, log⟩ =
      .ok { exit := .inputError } ⟨tree, read ++ [rejection .program fault]⟩ := by
  rw [validateOnly, tell_bind_eq]
  obtain ⟨read, ran⟩ := (reads_readModel path).attempt_bind _ tree _
  refine ⟨read, ?_⟩
  rw [ran, rejected]
  dsimp only
  rw [if_pos isReported]
  rfl

/-- The report on a rejected file tells of an error of the generation. -/
theorem exitOf_refused {report : GenerationReport} (blank : report.IsBlank) :
    exitOf (refused fault report) = .generationError := by
  simp [exitOf, refused, GenerationReport.finished, GenerationReport.withStep,
    blank.validationErrors, blank.exportErrors]

theorem generation_of_rejected {settings : Settings} {directory : Option Files.Path}
    (plain : ∀ given ∈ directory, given.IsPlain) (rejected : modelOf path tree = .error fault)
    (isReported : fault.isReported = true) (log : List LogEntry) :
    ∃ outcome read, generation settings path directory ⟨tree, log⟩ =
        .ok outcome ⟨tree, read ++ [rejection .generator fault]⟩ ∧
      outcome.exit = .generationError ∧ outcome.output = [] := by
  have begins : ∃ report, settings.generator.opened directory tree = .ok report :=
    exists_opened_iff.mpr plain
  obtain ⟨report, opens⟩ := begins
  have blank := isBlank_of_opened opens
  have unwritten : printedFiles (refused fault report) = [] := by
    have files : (refused fault report).files = [] := blank.files
    rw [printedFiles, files, List.mergeSort_nil, List.flatMap_nil]
  obtain ⟨read, ran⟩ := generateFromFile_of_rejected opens
    (loaded_of_modelOf_eq_error rejected settings.overrides) isReported _
  refine ⟨generationOutcome settings (refused fault report), read, ?_, exitOf_refused blank, ?_⟩
  · rw [generation]
    simp only [tell_bind_eq]
    exact bind_eq_of_ok ran _
  · rw [generationOutcome, unwritten, ite_self]

/-! ## Whole runs -/

/-- Whether the file of a run is there, and its content is rejected. -/
def Invocation.MeetsRejection (invocation : Invocation) (tree : Files.Tree) (fault : RunFault) :
    Prop :=
  ∃ path bytes, tree.resolve (.ofText invocation.model) = .ok path ∧
    tree.find path = .ok (some (.file bytes)) ∧ modelOf path tree = .error fault ∧
    fault.isReported = true

variable {invocation : Invocation}

theorem run_eq_of_execute {arguments : List Text} {outcome : Outcome} {after : Workspace}
    (asked : Invocation.read arguments = .ok invocation)
    (executed : invocation.execute ⟨tree, []⟩ = .ok outcome after) :
    run arguments tree =
      .ok (outcome.after invocation.settings.leastLevel after.log, after.tree) := by
  rw [run, asked]
  dsimp only
  rw [executed]

/-- Errors are shown in all runs. -/
theorem entry_mem_notices_after {entry : LogEntry} (important : entry.level = .error)
    (least : LogLevel) (log : List LogEntry) (outcome : Outcome) :
    .entry entry ∈ (outcome.after least (log ++ [entry])).notices := by
  have rank : least.rank ≤ entry.level.rank := by
    rw [important]
    cases least <;> decide
  have isShown : entry ∈ (log ++ [entry]).filter fun entry => least.rank ≤ entry.level.rank := by
    simp [rank]
  exact List.mem_append_left _ (List.mem_map_of_mem isShown)

section

variable {arguments : List Text} (asked : Invocation.read arguments = .ok invocation)
  (rejected : invocation.MeetsRejection tree fault)
include asked rejected

theorem run_validation_of_rejected (validates : invocation.settings.validateOnly = true) :
    ∃ outcome, run arguments tree = .ok (outcome, tree) ∧ outcome.exit = .inputError ∧
      outcome.output = [] ∧ .entry (rejection .program fault) ∈ outcome.notices := by
  obtain ⟨path, bytes, resolves, found, refused, isReported⟩ := rejected
  obtain ⟨read, ran⟩ := validateOnly_of_rejected refused isReported []
  have way := execute_eq (.inl validates) resolves found
  rw [if_pos validates, ran] at way
  exact ⟨_, run_eq_of_execute asked way, rfl, rfl, entry_mem_notices_after rfl _ _ _⟩

variable (plain : tree.IsPlain) (task : invocation.HasTask)
  (generates : invocation.settings.validateOnly = false)
include plain task generates

theorem run_generation_of_rejected (written : invocation.HasPlainOutput) :
    ∃ outcome, run arguments tree = .ok (outcome, tree) ∧ outcome.exit = .generationError ∧
      outcome.output = [] ∧ .entry (rejection .generator fault) ∈ outcome.notices := by
  obtain ⟨path, bytes, resolves, found, refused, isReported⟩ := rejected
  have way := execute_eq task resolves found
  rw [generates, if_neg Bool.false_ne_true] at way
  rcases mapM_resolved_cases ⟨tree, []⟩ plain invocation.settings.output with
    ⟨_, directory, plainDirectory, reached⟩ | ⟨null, _⟩
  · obtain ⟨outcome, read, ran, exit, output⟩ :=
      generation_of_rejected plainDirectory refused isReported []
    rw [bind_eq_of_ok reached, ran] at way
    exact ⟨_, run_eq_of_execute asked way, exit, output, entry_mem_notices_after rfl _ _ _⟩
  · exact absurd written null

theorem run_stops_of_rejected (null : ¬invocation.HasPlainOutput) :
    ∃ stopped, run arguments tree = .error stopped := by
  obtain ⟨path, bytes, resolves, found, _, _⟩ := rejected
  have way := execute_eq task resolves found
  rw [generates, if_neg Bool.false_ne_true] at way
  rcases mapM_resolved_cases ⟨tree, []⟩ plain invocation.settings.output with
    ⟨written, _⟩ | ⟨_, stopped, failed⟩
  · exact absurd written null
  · rw [bind_eq_of_error failed] at way
    refine ⟨stopped, ?_⟩
    rw [run, asked]
    dsimp only
    rw [way]

end

/-- A run ends in the way of its mode. -/
theorem run_of_rejected {arguments : List Text}
    (asked : Invocation.read arguments = .ok invocation)
    (rejected : invocation.MeetsRejection tree fault) (plain : tree.IsPlain)
    (task : invocation.HasTask)
    (ends : invocation.settings.validateOnly = true ∨ invocation.HasPlainOutput) :
    ∃ outcome source, run arguments tree = .ok (outcome, tree) ∧
      outcome.exit =
        (if invocation.settings.validateOnly then .inputError else .generationError) ∧
      outcome.output = [] ∧ .entry (rejection source fault) ∈ outcome.notices := by
  cases validates : invocation.settings.validateOnly with
  | true =>
      obtain ⟨outcome, ended⟩ := run_validation_of_rejected asked rejected validates
      exact ⟨outcome, .program, ended⟩
  | false =>
      have written := ends.resolve_left (by simp [validates])
      obtain ⟨outcome, ended⟩ :=
        run_generation_of_rejected asked rejected plain task validates written
      exact ⟨outcome, .generator, ended⟩

/-- On a file that is rejected only a validation ends with the exit code of input errors.  A
generation ends with that of generation errors, or with an exception where its output directory has
no path.  Either tells why, prints nothing and leaves the files as they are. -/
theorem exits_of_rejected {arguments : List Text} (plain : tree.IsPlain)
    (asked : Invocation.read arguments = .ok invocation) (task : invocation.HasTask)
    (rejected : invocation.MeetsRejection tree fault) :
    (Exits arguments tree Exit.inputError.code ↔ invocation.settings.validateOnly = true) ∧
    (invocation.settings.validateOnly = true ∨ invocation.HasPlainOutput →
      ∃ outcome source, run arguments tree = .ok (outcome, tree) ∧
        outcome.exit =
          (if invocation.settings.validateOnly then .inputError else .generationError) ∧
        outcome.output = [] ∧ .entry (rejection source fault) ∈ outcome.notices) ∧
    (invocation.settings.validateOnly = false → ¬invocation.HasPlainOutput →
      ∃ stopped, run arguments tree = .error stopped) := by
  have told := run_of_rejected asked rejected plain task
  have stops := run_stops_of_rejected asked rejected plain task
  refine ⟨⟨?_, fun validates => ?_⟩, told, stops⟩
  · rintro ⟨outcome, after, ran, code⟩
    by_contra generates
    rw [Bool.not_eq_true] at generates
    by_cases written : invocation.HasPlainOutput
    · obtain ⟨other, _, same, exit, _⟩ := told (.inr written)
      cases ran.symm.trans same
      rw [exit, generates] at code
      cases code
    · obtain ⟨stopped, failed⟩ := stops generates written
      cases ran.symm.trans failed
  · obtain ⟨outcome, _, ran, exit, _⟩ := told (.inl validates)
    refine ⟨outcome, tree, ran, ?_⟩
    rw [exit, validates]
    rfl

/-- A file with an empty mapping. -/
def emptyMapping : Files.Tree where
  nodes := [(["m.json"], .file (Text.Utf8.encode "\x7b\x7d"))]

/-- A dry run on the file. -/
def emptyMappingDryRun : Invocation :=
  ⟨"m.json", { dryRun := true }⟩

theorem meetsRejection_emptyMapping :
    ∃ fault, emptyMappingDryRun.MeetsRejection emptyMapping fault := by
  have resolves : emptyMapping.resolve (.ofText "m.json") = .ok ⟨"/", ["m.json"]⟩ := by decide
  have verdict : (match modelOf ⟨"/", ["m.json"]⟩ emptyMapping with
      | .ok _ => false
      | .error fault => fault.isReported) = true := by
    decide +kernel
  cases rejected : modelOf ⟨"/", ["m.json"]⟩ emptyMapping with
  | ok model =>
      rw [rejected] at verdict
      cases verdict
  | error fault =>
      rw [rejected] at verdict
      exact ⟨fault, _, _, resolves, by rfl, rejected, verdict⟩

/-- The file ends a dry run with the exit code of generation errors. -/
theorem exits_of_rejected_emptyMapping :
    ¬Exits ["-m", "m.json", "--dry-run"] emptyMapping Exit.inputError.code ∧
      Exits ["-m", "m.json", "--dry-run"] emptyMapping Exit.generationError.code := by
  have plain : emptyMapping.IsPlain := nofun
  have asked : Invocation.read ["-m", "m.json", "--dry-run"] = .ok emptyMappingDryRun := by
    decide +kernel
  have task : emptyMappingDryRun.HasTask := .inr (.inl rfl)
  have written : emptyMappingDryRun.HasPlainOutput := nofun
  obtain ⟨fault, rejected⟩ := meetsRejection_emptyMapping
  obtain ⟨input, told, _⟩ := exits_of_rejected plain asked task rejected
  obtain ⟨outcome, _, ran, exit, _⟩ := told (.inr written)
  refine ⟨fun exits => Bool.false_ne_true (input.mp exits), outcome, _, ran, ?_⟩
  rw [exit]
  rfl

end CommandLine

end EntityForge
