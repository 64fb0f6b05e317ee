import EntityForge.Proofs.Files.Putting

/-!
# Where a written file ends

An atomic write makes the directories on the way to its path, puts the text into a temporary file
beside it, and moves that file.  In the end one place of the tree holds the text and the temporary
file has left no trace.  The place is that of the path, unless a directory is there already: then
the file is moved into that directory and keeps its temporary name, and the write succeeds all the
same.
-/

namespace EntityForge.Files

namespace Action

variable {tree middle after : Tree} {path : Path} {place : List Text}

/-! ## Directories on the way -/

/-- An action that makes no more than directories on the way to a path, and succeeds only if the
path leads to one. -/
def Ensures (action : Action Unit) (path : Path) : Prop :=
  ∀ tree, match action tree with
    | .ok _ after =>
        tree.Gains after (path.passed tree.workingDirectory) ∧ after.isDirectory path = true
    | .error _ after => tree.Gains after (path.passed tree.workingDirectory)

namespace Ensures

variable {action next : Action Unit} {handler : Failure → Action Unit}

theorem of_eq_ok (ensures : Ensures action path) (run : action tree = .ok () after) :
    tree.Gains after (path.passed tree.workingDirectory) ∧ after.isDirectory path = true := by
  have here := ensures tree
  rw [run] at here
  exact here

theorem of_eq_error (ensures : Ensures action path) {failure : Failure}
    (run : action tree = .error failure after) :
    tree.Gains after (path.passed tree.workingDirectory) := by
  have here := ensures tree
  rw [run] at here
  exact here

theorem throw (failure : Failure) : Ensures (MonadExcept.throw failure) path :=
  fun tree => Tree.Gains.refl tree _

/-- What was made before a failure stays. -/
theorem after_gains (gains : tree.Gains middle (path.passed tree.workingDirectory))
    (later : Ensures action path) :
    match action middle with
    | .ok _ after =>
        tree.Gains after (path.passed tree.workingDirectory) ∧ after.isDirectory path = true
    | .error _ after => tree.Gains after (path.passed tree.workingDirectory) := by
  cases came : action middle with
  | ok value after =>
      obtain ⟨made, isDirectory⟩ := later.of_eq_ok came
      rw [gains.workingDirectory] at made
      exact ⟨gains.trans made, isDirectory⟩
  | error failure after =>
      have made := later.of_eq_error came
      rw [gains.workingDirectory] at made
      exact gains.trans made

theorem tryCatch (first : Ensures action path) (later : ∀ failure, Ensures (handler failure) path) :
    Ensures (MonadExcept.tryCatch action handler) path := by
  intro tree
  rw [tryCatch_apply]
  cases came : action tree with
  | ok value after => exact first.of_eq_ok came
  | error failure after => exact after_gains (first.of_eq_error came) (later failure)

theorem parent_bind (first : Ensures action path.parent) (later : Ensures next path) :
    Ensures (action >>= fun _ => next) path := by
  intro tree
  have inPassed := Path.passed_parent_subset path tree.workingDirectory
  simp only [bind, EStateM.bind]
  cases came : action tree with
  | ok value after => exact after_gains ((first.of_eq_ok came).1.mono inPassed) later
  | error failure after => exact (first.of_eq_error came).mono inPassed

end Ensures

theorem ensures_unlessDirectory (path : Path) (failure : Failure) :
    Ensures (unlessDirectory path failure) path := by
  intro tree
  rw [unlessDirectory_apply]
  cases found : tree.isDirectory path with
  | true => exact ⟨.refl tree _, found⟩
  | false => exact .refl tree _

theorem ensures_makeDirectory (path : Path) : Ensures (makeDirectory path) path := by
  intro tree
  rw [makeDirectory_apply]
  cases located : tree.locate path with
  | error failure => exact .refl tree _
  | ok place =>
      dsimp only
      cases here : tree.at? place with
      | some content => exact .refl tree _
      | none =>
          have passed : place ∈ path.passed tree.workingDirectory := by
            rw [Tree.eq_place_of_locate located]
            exact Path.place_mem_passed path _
          have gains := Tree.Gains.put here passed
          refine ⟨gains, Tree.isDirectory_iff.mpr ⟨place, gains.keeps.locate located, ?_⟩⟩
          rw [Tree.at?_put (Tree.ne_nil_of_at?_eq_none here), if_pos rfl]

theorem ensures_ensureLast (path : Path) : Ensures (ensureLast path) path := by
  apply (ensures_makeDirectory path).tryCatch
  intro failure
  split
  next => exact .throw _
  next => exact ensures_unlessDirectory path failure

theorem ensures_ensureDirectory (path : Path) : Ensures (ensureDirectory path) path := by
  rw [ensureDirectory_eq]
  apply (ensures_makeDirectory path).tryCatch
  intro failure
  split
  next =>
    split
    next => exact .throw _
    next nonempty =>
      exact (ensures_ensureDirectory path.parent).parent_bind (ensures_ensureLast path)
  next => exact ensures_unlessDirectory path failure
termination_by path.parts.length
decreasing_by exact Path.length_parent_lt ‹_›

end Action

/-! ## One file -/

/-- What becomes of a tree in which one file is written: the file stands at one place, and except
for directories on the way nothing else is new. -/
structure Tree.Receives (atomic : Bool) (before after : Tree) (path : Path) (bytes : List UInt8)
    (place : List Text) : Prop where
  workingDirectory : after.workingDirectory = before.workingDirectory
  received : after.at? place = some (.file bytes)
  elsewhere : ∀ other, other ≠ place → after.at? other = before.at? other ∨
    other ∈ path.parent.passed before.workingDirectory ∧ before.at? other = none ∧
      after.at? other = some .directory
  onTheWay : ∀ other ∈ path.parent.passed before.workingDirectory,
    after.at? other = some .directory
  /-- A directory at the place of the path is not replaced but, by an atomic write, entered. -/
  reached : after.isDirectory path = false ∧ before.at? place ≠ some .directory ∧
      after.locate path = .ok place ∨
    atomic = true ∧ after.isDirectory path = true ∧ before.at? place = none ∧
      ∃ attempt, place =
        path.place before.workingDirectory ++ [temporaryName path.name attempt]

namespace Tree.Receives

variable {atomic : Bool} {before middle after : Tree} {path : Path} {bytes : List UInt8}
  {place : List Text}

/-- The directories on the way come first, then the file. -/
theorem of_gains (gains : before.Gains middle (path.parent.passed before.workingDirectory))
    (parent : middle.isDirectory path.parent = true)
    (reached : middle.Takes path place ∨ atomic = true ∧ middle.Swallows path place) :
    Receives atomic before (middle.put place (.file bytes)) path bytes place := by
  have free : middle.at? place ≠ some .directory := by
    rcases reached with takes | ⟨_, swallows⟩
    · exact takes.free
    · exact swallows.free
  have keeps := Tree.keeps_put free bytes
  constructor
  case workingDirectory => exact gains.workingDirectory
  case received => exact at?_put_self free
  case elsewhere =>
    intro other different
    rw [at?_put_of_ne free different]
    exact gains.gained other
  case onTheWay =>
    intro other passed
    rw [← gains.workingDirectory] at passed
    exact keeps.directories other (Tree.isDirectory_of_mem_passed parent passed)
  case reached =>
    rw [isDirectory_put free]
    rcases reached with takes | ⟨atomic, swallows⟩
    · exact .inl ⟨takes.isDirectory, fun found => free (gains.keeps.directories place found),
        keeps.locate takes.located⟩
    · refine .inr ⟨atomic, swallows.isDirectory, ?_, ?_⟩
      · rcases gains.gained place with same | ⟨_, absent, _⟩
        · rw [← same, swallows.absent]
        · exact absent
      · obtain ⟨attempt, shape, _⟩ := middle.exists_temporary_eq path
        refine ⟨attempt, ?_⟩
        have name : (middle.temporary path).name = temporaryName path.name attempt := by
          rw [shape, Path.name_child]
        have reached := Tree.eq_place_of_locate swallows.located
        rw [name, Path.place_child (temporaryName_ne path.name attempt),
          gains.workingDirectory] at reached
        exact reached

theorem keeps (receives : before.Receives atomic after path bytes place) :
    before.Keeps after := by
  refine ⟨receives.workingDirectory, ?_⟩
  intro other found
  have different : other ≠ place := by
    rintro rfl
    rcases receives.reached with ⟨_, free, _⟩ | ⟨_, _, absent, _⟩
    · exact free found
    · rw [found] at absent
      cases absent
  rcases receives.elsewhere other different with same | ⟨_, _, made⟩
  · rw [same, found]
  · exact made

end Tree.Receives

namespace Action

variable {tree after : Tree} {path : Path} {text : Text} {atomic : Bool} {count : Nat}

theorem exists_receives_of_writeFile (rooted : (".." : Text) ∉ tree.workingDirectory)
    (run : writeFile path text atomic tree = .ok count after) :
    count = (Text.Utf8.encode text).length ∧
      ∃ place, tree.Receives atomic after path (Text.Utf8.encode text) place := by
  rw [writeFile_eq] at run
  obtain ⟨_, middle, ensured, encoding⟩ := bind_eq_ok_iff.mp run
  obtain ⟨_, _, encoded, later⟩ := bind_eq_ok_iff.mp encoding
  obtain ⟨_, rfl, rfl⟩ := Device.bytesOf_eq_ok_iff.mp encoded
  obtain ⟨gains, parent⟩ := (ensures_ensureDirectory path.parent).of_eq_ok ensured
  cases atomic with
  | true =>
      obtain ⟨_, _, replaced, returned⟩ := bind_eq_ok_iff.mp later
      cases returned
      rw [← gains.workingDirectory] at rooted
      obtain ⟨_, place, reached, rfl⟩ := (replaceFile_eq_ok_iff rooted).mp replaced
      exact ⟨rfl, place, .of_gains gains parent (reached.imp_right fun it => ⟨rfl, it⟩)⟩
  | false =>
      obtain ⟨_, _, put, returned⟩ := bind_eq_ok_iff.mp later
      cases returned
      obtain ⟨place, takes, rfl⟩ := putBytes_eq_ok_iff.mp put
      exact ⟨rfl, place, .of_gains gains parent (.inl takes)⟩

end Action

end EntityForge.Files
