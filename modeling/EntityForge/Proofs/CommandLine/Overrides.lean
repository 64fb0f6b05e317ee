import EntityForge.CommandLine.Run
import EntityForge.Proofs.CommandLine.Flags
import EntityForge.Proofs.Generation.FromFile
import EntityForge.Proofs.Model.Override

/-!
# Flags over files

The flags of a command line are overrides of the options in a model file.  So an option that is
given as a flag wins, and every other one is that of the file.
-/

namespace EntityForge

open EntityForge.Schema

namespace Generator

variable {path : Files.Path} {overrides content : List (Data × Data)} {tree : Files.Tree}
  {model : EntityModel} {options result : GeneratorOptions}

/-- That no overrides are not laid over anything makes no difference. -/
theorem settled_eq_ok_iff :
    settled overrides content = .ok (model, result) ↔
      ∃ options, settled [] content = .ok (model, options) ∧
        options.override overrides = .valid result := by
  simp only [settled, List.isEmpty_nil, if_true, except_bind_eq_ok_iff, Prod.exists]
  constructor
  · rintro ⟨found, options, parsed, laid⟩
    cases overrides with
    | nil =>
        cases laid
        exact ⟨result, ⟨_, _, parsed, rfl⟩, result.override_nil⟩
    | cons entry rest =>
        simp only [List.isEmpty_cons, Bool.false_eq_true, if_false] at laid
        split at laid
        next settings valid =>
          cases laid
          exact ⟨options, ⟨_, _, parsed, rfl⟩, valid⟩
        next => cases laid
  · rintro ⟨options, ⟨found, _, parsed, same⟩, valid⟩
    cases same
    refine ⟨_, options, parsed, ?_⟩
    cases overrides with
    | nil =>
        cases (options.override_nil).symm.trans valid
        rfl
    | cons entry rest => simp only [List.isEmpty_cons, Bool.false_eq_true, if_false, valid]

theorem outcome_loadModel (path : Files.Path) (overrides : List (Data × Data))
    (workspace : Workspace) :
    (loadModel path overrides).outcome workspace = loaded path overrides workspace.tree := by
  obtain ⟨log, ran⟩ := reads_loadModel path overrides workspace
  rw [Run.outcome, ran]
  cases loaded path overrides workspace.tree <;> rfl

/-- A file is loaded with the overrides of its own options. -/
theorem outcome_loadModel_eq_ok_iff {workspace : Workspace} {found : EntityModel}
    (file : (loadModel path []).outcome workspace = .ok (model, options)) :
    (loadModel path overrides).outcome workspace = .ok (found, result) ↔
      found = model ∧ options.override overrides = .valid result := by
  rw [outcome_loadModel] at file ⊢
  cases load : ModelFile.load workspace.tree path with
  | error fault =>
      rw [loaded_of_error load] at file
      cases file
  | ok content =>
      rw [loaded_of_ok load] at file ⊢
      rw [settled_eq_ok_iff, file]
      simp only [Except.ok.injEq, Prod.mk.injEq]
      constructor
      · rintro ⟨_, ⟨rfl, rfl⟩, valid⟩
        exact ⟨rfl, valid⟩
      · rintro ⟨rfl, valid⟩
        exact ⟨_, ⟨rfl, rfl⟩, valid⟩

end Generator

namespace CommandLine

/-! ## Flags as overrides -/

namespace Settings

variable (settings : Settings)

theorem isKeyed_overrides : Data.IsKeyed GeneratorOptions.keys settings.overrides := by
  obtain ⟨_, _, _, document, nullable, fileScoped, size, _, _, _, _⟩ := settings
  constructor <;> cases document <;> cases nullable <;> cases fileScoped <;> cases size <;>
    simp [overrides, GeneratorOptions.keys]

/-- The override of a switch, if it is on. -/
def switched? (value : Bool) : Option Data :=
  if value then some (.bool true) else none

theorem lookup?_overrides :
    Data.lookup? "document" settings.overrides = switched? (settings.isOn .document) ∧
      Data.lookup? "nullable" settings.overrides = switched? (settings.isOn .nullable) ∧
      Data.lookup? "file_scoped_namespace" settings.overrides =
        switched? (settings.isOn .fileScopedNamespace) ∧
      Data.lookup? "indent_size" settings.overrides = settings.indentSize.map .int ∧
      Data.lookup? "file_extension" settings.overrides = none := by
  obtain ⟨_, _, _, document, nullable, fileScoped, size, _, _, _, _⟩ := settings
  cases document <;> cases nullable <;> cases fileScoped <;> cases size <;>
    exact ⟨rfl, rfl, rfl, rfl, rfl⟩

end Settings

/-- Whether a size is the one that is given, or the one of the file if none is. -/
def SizeWins (value? : Option Text) (file result : Nat) : Prop :=
  match value? with
  | some value => Decimal.wholeNumber 10 value = .ok (result : Int)
  | none => result = file

/-- Whether options are those of a file with the flags of some arguments laid over them. -/
structure FlagsWin (arguments : List Argument) (file result : GeneratorOptions) : Prop where
  document : result.document = true ↔ Switch.document.IsGiven arguments ∨ file.document = true
  nullable : result.nullable = true ↔ Switch.nullable.IsGiven arguments ∨ file.nullable = true
  fileScopedNamespace : result.fileScopedNamespace = true ↔
    Switch.fileScopedNamespace.IsGiven arguments ∨ file.fileScopedNamespace = true
  indentSize :
    SizeWins (Setting.indentSize.lastValue? arguments) file.indentSize result.indentSize
  fileExtension : result.fileExtension = file.fileExtension

open GeneratorOptions

theorem settles_switched_iff {value old new : Bool} :
    Settles readBool (Settings.switched? value) old new ↔
      (new = true ↔ value = true ∨ old = true) := by
  cases value <;> cases old <;> cases new <;> simp [Settles, Settings.switched?, readBool]

/-- A number is read as a size exactly if it is one. -/
theorem readIndentSize_int_iff {number : Int} {size : { size : Nat // 1 ≤ size ∧ size ≤ 8 }} :
    readIndentSize (.int number) = .valid size ↔ number = size.1 := by
  obtain ⟨size, range⟩ := size
  simp only [readIndentSize, readInt, Checked.andThen]
  split
  next inside =>
    rw [Checked.valid_eq_valid_iff, Subtype.mk.injEq]
    omega
  next outside =>
    refine iff_of_false Checked.issue_ne_valid ?_
    omega

/-- A size that was given settles the size. -/
theorem settles_resized_iff {value? : Option Text} {size? : Option Int}
    {old new : { size : Nat // 1 ≤ size ∧ size ≤ 8 }} (resizes : ResizesTo value? none size?) :
    Settles readIndentSize (size?.map .int) old new ↔ SizeWins value? old.1 new.1 := by
  cases value? with
  | none =>
      cases resizes
      exact Subtype.ext_iff
  | some value =>
      obtain ⟨number, read, rfl⟩ := resizes
      refine readIndentSize_int_iff.trans ?_
      rw [SizeWins, read, Except.ok.injEq]

/-- Overriding with what an invocation asks for lets its flags win. -/
theorem override_overrides_iff {texts : List Text} {arguments : List Argument}
    {invocation : Invocation} {options result : GeneratorOptions}
    (split : Argument.ofTexts texts = .ok arguments)
    (asked : Invocation.read texts = .ok invocation) :
    options.override invocation.settings.overrides = .valid result ↔
      FlagsWin arguments options result := by
  obtain ⟨document, nullable, fileScoped, size, extension⟩ := invocation.settings.lookup?_overrides
  rw [override_eq_valid_iff invocation.settings.isKeyed_overrides]
  have switches (switch : Switch) {override? : Option Data} {old new : Bool}
      (found : override? = Settings.switched? (invocation.settings.isOn switch)) :
      Settles readBool override? old new ↔
        (new = true ↔ switch.IsGiven arguments ∨ old = true) := by
    rw [found, settles_switched_iff, Invocation.isOn_iff split asked]
  have documents := @switches .document _ options.document result.document document
  have nullables := @switches .nullable _ options.nullable result.nullable nullable
  have fileScopes := @switches .fileScopedNamespace _ options.fileScopedNamespace
    result.fileScopedNamespace fileScoped
  have sizes : Settles readIndentSize (Data.lookup? "indent_size" invocation.settings.overrides)
      options.size result.size ↔
        SizeWins (Setting.indentSize.lastValue? arguments) options.indentSize
          result.indentSize := by
    rw [size]
    exact settles_resized_iff (Invocation.resizesTo split asked)
  have extensions : Settles readExtension
      (Data.lookup? "file_extension" invocation.settings.overrides) options.extension
      result.extension ↔ result.fileExtension = options.fileExtension := by
    rw [extension]
    exact Subtype.ext_iff
  constructor
  · intro laid
    exact ⟨documents.mp laid.document, nullables.mp laid.nullable,
      fileScopes.mp laid.fileScopedNamespace, sizes.mp laid.indentSize,
      extensions.mp laid.fileExtension⟩
  · intro win
    exact ⟨documents.mpr win.document, fileScopes.mpr win.fileScopedNamespace,
      nullables.mpr win.nullable, sizes.mpr win.indentSize, extensions.mpr win.fileExtension⟩

/-- Overriding options is a merge in which the later values win.  No overrides change nothing;
whether overrides are accepted, and what is wrong with them, does not depend on the options; a field
is settled by its own override; and two overrides in a row are one.  So the options of a run are
those of its file, however they are spelled there, with the flags of the command line over them. -/
theorem override_merges (options : GeneratorOptions) {first second : List (Data × Data)}
    (keyed : Data.IsKeyed keys first) (rekeyed : Data.IsKeyed keys second) :
    options.override [] = .valid options ∧
    (∀ other : GeneratorOptions,
      (options.override first).verdict = (other.override first).verdict) ∧
    (∀ result, options.override first = .valid result ↔ options.Overlays first result) ∧
    (∀ middle result, options.override first = .valid middle →
      middle.override second = .valid result →
        options.override (Data.putAll first second) = .valid result) ∧
    ∀ path workspace model texts arguments invocation,
      (Generator.loadModel path []).outcome workspace = .ok (model, options) →
      Argument.ofTexts texts = .ok arguments → Invocation.read texts = .ok invocation →
        ∀ found result,
          (Generator.loadModel path invocation.settings.overrides).outcome workspace =
              .ok (found, result) ↔
            found = model ∧ FlagsWin arguments options result := by
  refine ⟨options.override_nil, verdict_override keyed options,
    fun _ => override_eq_valid_iff keyed, fun _ _ => override_putAll keyed rekeyed, ?_⟩
  intro path workspace model texts arguments invocation file split asked found result
  rw [Generator.outcome_loadModel_eq_ok_iff file, override_overrides_iff split asked]

/-- A file whose options are spelled in two ways. -/
def spelledOptions : Workspace where
  tree := { nodes := [(["m.json"], .file (Text.Utf8.encode
    "\x7b\"model\":[],\"options\":\x7b\"Document\":true,\"indent_size\":2\x7d\x7d"))] }

/-- A size as a numeral. -/
def firstOverrides : List (Data × Data) :=
  [(.text "indent_size", .text "3")]

/-- Another size, and a switch. -/
def secondOverrides : List (Data × Data) :=
  [(.text "nullable", .bool true), (.text "indent_size", .int 6)]

/-- Arguments with a shortened switch, and with two sizes. -/
def resizing : List Text :=
  ["-m", "m.json", "--dry-run", "--null", "--indent-size=3", "--indent-size", "5"]

theorem loads_spelledOptions :
    ∃ model, (Generator.loadModel ⟨"/", ["m.json"]⟩ []).outcome spelledOptions =
      .ok (model, { document := true, indentSize := 2 }) := by
  have options : ((Generator.loaded ⟨"/", ["m.json"]⟩ [] spelledOptions.tree).map
      Prod.snd).toOption = some { document := true, indentSize := 2 } := by
    decide +kernel
  rw [Generator.outcome_loadModel]
  cases loaded : Generator.loaded ⟨"/", ["m.json"]⟩ [] spelledOptions.tree with
  | error fault =>
      rw [loaded] at options
      cases options
  | ok settings =>
      rw [loaded] at options
      exact ⟨settings.1, by rw [← Option.some.inj options]⟩

/-- The later size wins among overrides, and among flags. -/
theorem override_merges_spelledOptions :
    Data.IsKeyed keys firstOverrides ∧ Data.IsKeyed keys secondOverrides ∧
      GeneratorOptions.override { document := true, indentSize := 2 }
          (Data.putAll firstOverrides secondOverrides) =
        .valid { document := true, nullable := true, indentSize := 6 } ∧
      ∃ model invocation, Invocation.read resizing = .ok invocation ∧
        (Generator.loadModel ⟨"/", ["m.json"]⟩ invocation.settings.overrides).outcome
            spelledOptions =
          .ok (model, { document := true, nullable := true, indentSize := 5 }) := by
  have keyed : Data.IsKeyed keys firstOverrides :=
    ⟨by simp [firstOverrides, keys], by simp [firstOverrides]⟩
  have rekeyed : Data.IsKeyed keys secondOverrides :=
    ⟨by simp [secondOverrides, keys], by simp [secondOverrides]⟩
  obtain ⟨-, -, laid, merged, flags⟩ :=
    override_merges { document := true, indentSize := 2 } keyed rekeyed
  refine ⟨keyed, rekeyed, ?_, ?_⟩
  · refine merged { document := true, indentSize := 3 } _ ?_ ?_
    · exact (laid _).mpr ⟨rfl, rfl, rfl, rfl, rfl⟩
    · exact (override_eq_valid_iff rekeyed).mpr ⟨rfl, rfl, rfl, rfl, rfl⟩
  · obtain ⟨model, file⟩ := loads_spelledOptions
    have split : ∃ arguments, Argument.ofTexts resizing = .ok arguments ∧
        Switch.nullable.IsGiven arguments ∧ ¬Switch.fileScopedNamespace.IsGiven arguments ∧
          Setting.indentSize.lastValue? arguments = some "5" :=
      ⟨[ .letters (.setting .model) [], .plain "m.json", .word (.switch .dryRun) none,
          .word (.switch .nullable) none, .word (.setting .indentSize) (some "3"),
          .word (.setting .indentSize) none, .plain "5" ],
        by decide +kernel, by decide, by decide, by decide⟩
    have asked : Invocation.read resizing =
        .ok ⟨"m.json", { dryRun := true, nullable := true, indentSize := some 5 }⟩ := by
      decide +kernel
    obtain ⟨arguments, split, nullable, fileScoped, size⟩ := split
    refine ⟨model, _, asked, (flags _ _ _ _ _ _ file split asked _ _).mpr ⟨rfl, ?_⟩⟩
    constructor
    · simp
    · simp [nullable]
    · simp [fileScoped]
    · rw [size]
      exact (by decide +kernel : Decimal.wholeNumber 10 "5" = .ok (5 : Int))
    · rfl

end CommandLine

end EntityForge
