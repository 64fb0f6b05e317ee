import EntityForge.Proofs.Files.Plain
import EntityForge.Proofs.Files.Steps

/-!
# Writing under plain paths

Whatever the file tree refuses, writing texts that can be encoded under plain paths never fails for a
path or a text itself.  All other failures are those of the file system, which a report can tell.
-/

namespace EntityForge.Files

/-- A tree in which the working directory has a plain path. -/
def Tree.IsPlain (tree : Tree) : Prop :=
  ∀ part ∈ tree.workingDirectory, IsPlainText part

theorem Tree.isSystemFailure_of_locate {tree : Tree} {path : Path} (plain : path.IsPlain)
    {failure : Failure} (refused : tree.locate path = .error failure) :
    failure.isSystemFailure = true := by
  rw [locate, fault?_eq_none_iff.mpr (Path.isPlain_iff.mp plain)] at refused
  dsimp only at refused
  split at refused
  next =>
    cases refused
    rfl
  next =>
    generalize tree.walk _ _ = walked at refused
    cases walked with
    | ok place => cases refused
    | error cause =>
        cases refused
        rfl

namespace Action

variable {α β : Type} {Kind : α → Prop} {Other : β → Prop}

/-- An action that fails for reasons of the file system only, and otherwise returns a value of one
kind.  The tree stays plain in either case. -/
def Avoids (action : Action α) (Kind : α → Prop) : Prop :=
  ∀ tree, tree.IsPlain →
    match action tree with
    | .ok value after => Kind value ∧ after.IsPlain
    | .error failure after => failure.isSystemFailure = true ∧ after.IsPlain

namespace Avoids

theorem pure {value : α} (kind : Kind value) : Avoids (Pure.pure value) Kind :=
  fun _ plain => ⟨kind, plain⟩

theorem throw {failure : Failure} (system : failure.isSystemFailure = true) :
    Avoids (MonadExcept.throw failure) Kind :=
  fun _ plain => ⟨system, plain⟩

theorem get : Avoids MonadState.get Tree.IsPlain :=
  fun _ plain => ⟨plain, plain⟩

theorem set {tree : Tree} (plain : tree.IsPlain) :
    Avoids (MonadState.set tree) fun _ => True :=
  fun _ _ => ⟨trivial, plain⟩

theorem modify {change : Tree → Tree}
    (same : ∀ tree, (change tree).workingDirectory = tree.workingDirectory) :
    Avoids (modify change) fun _ => True := by
  intro tree plain
  refine ⟨trivial, ?_⟩
  rw [Tree.IsPlain, same]
  exact plain

/-- What stands after a failure is never run. -/
theorem throw_bind {failure : Failure} {next : α → Action β}
    (system : failure.isSystemFailure = true) :
    Avoids (MonadExcept.throw failure >>= next) Other :=
  fun _ plain => ⟨system, plain⟩

theorem bind {action : Action α} {next : α → Action β} (first : Avoids action Kind)
    (later : ∀ value, Kind value → Avoids (next value) Other) :
    Avoids (action >>= next) Other := by
  intro tree plain
  have here := first tree plain
  simp only [Bind.bind, EStateM.bind]
  cases came : action tree with
  | ok value after =>
      rw [came] at here
      exact later value here.1 after here.2
  | error failure after =>
      rw [came] at here
      exact here

theorem tryCatch {action : Action α} {handler : Failure → Action α} (first : Avoids action Kind)
    (later : ∀ failure, failure.isSystemFailure = true → Avoids (handler failure) Kind) :
    Avoids (MonadExcept.tryCatch action handler) Kind := by
  intro tree plain
  have here := first tree plain
  simp only [MonadExcept.tryCatch, tryCatchThe, MonadExceptOf.tryCatch, EStateM.tryCatch]
  cases came : action tree with
  | ok value after =>
      rw [came] at here
      exact here
  | error failure after =>
      rw [came] at here
      exact later failure here.1 after here.2

theorem isSystemFailure {action : Action α} {tree after : Tree} {failure : Failure}
    (avoids : Avoids action Kind) (plain : tree.IsPlain)
    (run : action tree = .error failure after) : failure.isSystemFailure = true := by
  have here := avoids tree plain
  rw [run] at here
  exact here.1

end Avoids

-- The actions below are composed by the lemmas above; unfolding would run them on the tree instead.
attribute [local irreducible] Avoids

variable {path : Path}

theorem avoids_locate (plain : path.IsPlain) : Avoids (locate path) fun _ => True := by
  apply Avoids.get.bind
  intro tree _
  split
  next => exact .pure trivial
  next failure refused => exact .throw (Tree.isSystemFailure_of_locate plain refused)

theorem avoids_unlessDirectory (path : Path) {failure : Failure}
    (system : failure.isSystemFailure = true) :
    Avoids (unlessDirectory path failure) fun _ => True := by
  apply Avoids.get.bind
  intro tree _
  split
  next => exact .pure trivial
  next => exact .throw system

theorem avoids_makeDirectory (plain : path.IsPlain) :
    Avoids (makeDirectory path) fun _ => True := by
  apply (avoids_locate plain).bind
  intro place _
  apply Avoids.get.bind
  intro tree _
  split
  next => exact .throw_bind rfl
  next => exact .modify fun _ => rfl

theorem avoids_ensureLast (plain : path.IsPlain) : Avoids (ensureLast path) fun _ => True := by
  rw [ensureLast_eq]
  apply (avoids_makeDirectory plain).tryCatch
  intro failure system
  split
  next => exact .throw rfl
  next => exact avoids_unlessDirectory path system

theorem avoids_ensureDirectory (path : Path) (plain : path.IsPlain) :
    Avoids (ensureDirectory path) fun _ => True := by
  rw [ensureDirectory_eq]
  apply (avoids_makeDirectory plain).tryCatch
  intro failure system
  split
  next =>
    split
    next => exact .throw rfl
    next nonempty =>
      have above := avoids_ensureDirectory path.parent plain.parent
      exact above.bind fun _ _ => avoids_ensureLast plain
  next => exact avoids_unlessDirectory path system
termination_by path.parts.length
decreasing_by exact Path.length_parent_lt ‹_›

theorem avoids_putBytes (plain : path.IsPlain) (bytes : List UInt8) :
    Avoids (putBytes path bytes) fun _ => True := by
  apply (avoids_locate plain).bind
  intro place _
  apply Avoids.get.bind
  intro tree _
  split
  next => exact .throw_bind rfl
  next => exact .modify fun _ => rfl

theorem isPlainText_temporaryName {name : Text} (plain : IsPlainText name) (attempt : Nat) :
    IsPlainText (temporaryName name attempt) := by
  have digits : IsPlainText (String.ofList
      (List.replicate (8 - (Nat.toDigits 10 attempt).length) '0' ++
        Nat.toDigits 10 attempt)) := by
    refine isPlainText_ofString fun null => ?_
    rw [String.toList_ofList, List.mem_append] at null
    rcases null with padding | inDigits
    · exact absurd (List.eq_of_mem_replicate padding) (by decide)
    · exact absurd (Nat.isDigit_of_mem_toDigits (by decide) (by decide) inDigits) (by decide)
  have dot : IsPlainText "." := by decide
  have ending : IsPlainText ".tmp" := by decide
  simp only [temporaryName, isPlainText_append_iff]
  exact ⟨⟨⟨⟨dot, plain⟩, dot⟩, digits⟩, ending⟩

theorem isPlain_temporary {tree : Tree} (plainTree : tree.IsPlain) (plain : path.IsPlain) :
    (tree.temporary path).IsPlain := by
  obtain ⟨attempt, shape, _⟩ := tree.exists_temporary_eq path
  rw [shape]
  exact (plain.parent.resolve plainTree).child (isPlainText_temporaryName plain.name attempt)

theorem avoids_makeTemporary (plain : path.IsPlain) :
    Avoids (makeTemporary path) Path.IsPlain := by
  apply Avoids.get.bind
  intro tree plainTree
  have plainTemporary := isPlain_temporary plainTree plain
  apply (avoids_locate plainTemporary).bind
  intro place _
  apply Avoids.get.bind
  intro tree _
  have made : Avoids (modify fun tree => tree.put place (.file [])) fun _ => True :=
    .modify fun _ => rfl
  split
  next => exact .throw_bind rfl
  next => exact made.bind fun _ _ => .pure plainTemporary

theorem isSystemFailure_of_readBytes {tree : Tree} (plain : path.IsPlain) {failure : Failure}
    (unread : tree.readBytes path = .error failure) : failure.isSystemFailure = true := by
  rw [Tree.readBytes] at unread
  cases located : tree.locate path with
  | error refused =>
      rw [located] at unread
      cases unread
      exact Tree.isSystemFailure_of_locate plain located
  | ok place =>
      rw [located] at unread
      simp only [bind, Except.bind] at unread
      split at unread
      next => cases unread
      next =>
        cases unread
        rfl
      next =>
        cases unread
        rfl

theorem avoids_rename {source goal : Path} (plainSource : source.IsPlain)
    (plainGoal : goal.IsPlain) : Avoids (rename source goal) fun _ => True := by
  apply (avoids_locate plainSource).bind
  intro origin _
  apply (avoids_locate plainGoal).bind
  intro place _
  apply Avoids.get.bind
  intro tree plainTree
  dsimp only
  split
  next => exact .throw_bind rfl
  next =>
    split
    next => exact .set plainTree
    next => exact .throw rfl

theorem avoids_remove (plain : path.IsPlain) : Avoids (remove path) fun _ => True := by
  apply (avoids_locate plain).bind
  intro place _
  exact .modify fun _ => rfl

theorem avoids_moveTo {source goal : Path} (plainSource : source.IsPlain)
    (plainGoal : goal.IsPlain) : Avoids (Tree.device.moveTo source goal) fun _ => True := by
  apply (avoids_rename plainSource plainGoal).tryCatch
  intro failure system
  rw [if_pos system]
  apply Avoids.get.bind
  intro tree _
  split
  next bytes _ => exact (avoids_putBytes plainGoal bytes).bind fun _ _ => avoids_remove plainSource
  next unread failed => exact .throw (isSystemFailure_of_readBytes plainSource failed)

theorem avoids_moveFile {source target : Path} (plainSource : source.IsPlain)
    (plainTarget : target.IsPlain) : Avoids (moveFile source target) fun _ => True := by
  apply Avoids.get.bind
  intro tree _
  split
  next =>
    have plainGoal := plainTarget.child plainSource.name
    apply Avoids.get.bind
    intro there _
    split
    next => exact .throw_bind rfl
    next => exact avoids_moveTo plainSource plainGoal
  next => exact avoids_moveTo plainSource plainTarget

theorem avoids_discard (plain : path.IsPlain) :
    Avoids (Tree.device.discard path) fun _ => True := by
  apply Avoids.get.bind
  intro tree _
  split
  next => exact avoids_remove plain
  next => exact .pure trivial

theorem avoids_replaceFile (plain : path.IsPlain) (bytes : List UInt8) :
    Avoids (replaceFile path bytes) fun _ => True := by
  rw [replaceFile_eq]
  refine (avoids_makeTemporary plain).bind fun temporary plainTemporary => ?_
  have filled := (avoids_putBytes plainTemporary bytes).bind fun _ _ =>
    avoids_moveFile plainTemporary plain
  refine filled.tryCatch fun failure system => ?_
  exact (avoids_discard plainTemporary).bind fun _ _ => .throw system

theorem avoids_bytesOf {text : Text} (encodable : text.isEncodable = true) :
    Avoids (Device.bytesOf text) fun _ => True := by
  rw [Device.bytesOf, Text.Utf8.encoded, Text.Utf8.encodingFault?_eq_none_iff.mpr encodable]
  exact .pure trivial

/-- Writing a text that can be encoded under a plain path fails for reasons of the file system
only. -/
theorem avoids_writeFile (plain : path.IsPlain) {text : Text} (encodable : text.isEncodable = true)
    (atomic : Bool) : Avoids (writeFile path text atomic) fun _ => True := by
  rw [writeFile_eq]
  apply (avoids_ensureDirectory _ plain.parent).bind
  intro _ _
  apply (avoids_bytesOf encodable).bind
  intro bytes _
  have count : Avoids (return bytes.length) fun _ => True := .pure trivial
  cases atomic with
  | true => exact (avoids_replaceFile plain _).bind fun _ _ => count
  | false => exact (avoids_putBytes plain _).bind fun _ _ => count

theorem avoids_writeBatch {base : Path} (plain : base.IsPlain) (atomic : Bool)
    {files : List (Text × Text)}
    (each : ∀ file ∈ files, IsPlainText file.1 ∧ file.2.isEncodable = true) :
    Avoids (writeBatch base atomic files) fun _ => True := by
  induction files with
  | nil => exact .pure trivial
  | cons file rest ih =>
      rw [List.forall_mem_cons] at each
      have first := avoids_writeFile (plain.join (.ofText each.1.1)) each.1.2 atomic
      exact first.bind fun _ _ => (ih each.2).bind fun _ _ => .pure trivial

end Action

end EntityForge.Files
