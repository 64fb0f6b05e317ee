import EntityForge.Proofs.Files.Steps

/-!
# Putting a file at a path

Bytes are put at a path directly, or through a temporary file beside it.  In either case one place
of the tree holds the file in the end or nothing has changed at all.  The two ways differ in when
they succeed: a temporary file may not be possible, and a directory at the path takes the temporary
file in under the name that it has.
-/

namespace EntityForge.Files

namespace Tree

variable {tree : Tree} {path : Path} {place goal : List Text} {bytes : List UInt8}

/-! ## A file at a place -/

theorem ne_nil_of_at?_ne_directory (free : tree.at? place ≠ some .directory) : place ≠ [] := by
  rintro rfl
  exact free rfl

theorem at?_put_self (free : tree.at? place ≠ some .directory) :
    (tree.put place (.file bytes)).at? place = some (.file bytes) := by
  rw [at?_put (ne_nil_of_at?_ne_directory free), if_pos rfl]

theorem at?_put_of_ne (free : tree.at? place ≠ some .directory) {other : List Text}
    (different : other ≠ place) :
    (tree.put place (.file bytes)).at? other = tree.at? other := by
  rw [at?_put (ne_nil_of_at?_ne_directory free), if_neg different]

/-- A file that is filled twice holds what was put into it last. -/
theorem put_put (first second : Content) :
    (tree.put place first).put place second = tree.put place second := by
  simp only [put]
  rw [List.filter_cons_of_neg (by simp), List.filter_filter]
  simp only [Bool.and_self]

/-- A file replaces no directory. -/
theorem keeps_put (free : tree.at? place ≠ some .directory) (bytes : List UInt8) :
    tree.Keeps (tree.put place (.file bytes)) := by
  refine ⟨rfl, ?_⟩
  intro other found
  have different : other ≠ place := fun same => free (same ▸ found)
  rw [at?_put_of_ne free different, found]

/-- No directory is new. -/
theorem put_keeps (free : tree.at? place ≠ some .directory) (bytes : List UInt8) :
    (tree.put place (.file bytes)).Keeps tree := by
  refine ⟨rfl, ?_⟩
  intro other found
  rw [at?_put (ne_nil_of_at?_ne_directory free)] at found
  split at found
  next => cases found
  next => exact found

theorem locate_put_iff (free : tree.at? place ≠ some .directory) :
    (tree.put place (.file bytes)).locate path = .ok goal ↔ tree.locate path = .ok goal :=
  ⟨(put_keeps free bytes).locate, (keeps_put free bytes).locate⟩

theorem isDirectory_put (free : tree.at? place ≠ some .directory) :
    (tree.put place (.file bytes)).isDirectory path = tree.isDirectory path := by
  rw [Bool.eq_iff_iff]
  exact ⟨(put_keeps free bytes).isDirectory, (keeps_put free bytes).isDirectory⟩

/-! ## When a file can be put -/

/-- Whether a file can be put at a path, and at which place. -/
structure Takes (tree : Tree) (path : Path) (place : List Text) : Prop where
  located : tree.locate path = .ok place
  free : tree.at? place ≠ some .directory

/-- Whether a temporary file can be made for a path. -/
def HasTemporary (tree : Tree) (path : Path) : Prop :=
  tree.locate (tree.temporary path) = .ok (tree.temporary path).parts

/-- Whether a path leads to a directory that takes the temporary file in, and at which place. -/
structure Swallows (tree : Tree) (path : Path) (place : List Text) : Prop where
  isDirectory : tree.isDirectory path = true
  located : tree.locate (path.child (tree.temporary path).name) = .ok place
  absent : tree.at? place = none
  elsewhere : place ≠ (tree.temporary path).parts

theorem Takes.isDirectory (takes : tree.Takes path place) : tree.isDirectory path = false := by
  rw [Bool.eq_false_iff]
  intro isDirectory
  obtain ⟨found, located, stands⟩ := isDirectory_iff.mp isDirectory
  cases takes.located.symm.trans located
  exact takes.free stands

/-- What is no directory can be taken for a file. -/
theorem takes_iff (noDirectory : tree.isDirectory path = false) :
    tree.Takes path place ↔ tree.locate path = .ok place := by
  refine ⟨Takes.located, fun located => ⟨located, ?_⟩⟩
  intro stands
  rw [isDirectory_iff.mpr ⟨place, located, stands⟩] at noDirectory
  cases noDirectory

theorem Swallows.free (swallows : tree.Swallows path place) :
    tree.at? place ≠ some .directory := by
  rw [swallows.absent]
  exact (Option.some_ne_none _).symm

theorem at?_temporary_ne (tree : Tree) (path : Path) :
    tree.at? (tree.temporary path).parts ≠ some .directory := by
  obtain ⟨_, _, absent⟩ := tree.exists_temporary_eq path
  rw [absent]
  exact (Option.some_ne_none _).symm

/-- The temporary file is where it was made. -/
theorem locate_temporary (temporary : tree.HasTemporary path) (bytes : List UInt8) :
    (tree.put (tree.temporary path).parts (.file bytes)).locate (tree.temporary path) =
      .ok (tree.temporary path).parts :=
  (locate_put_iff (tree.at?_temporary_ne path)).mpr temporary

end Tree

namespace Action

variable {tree after : Tree} {path : Path} {bytes : List UInt8} {failure : Failure}

/-! ## Directly -/

theorem putBytes_eq_ok_iff :
    putBytes path bytes tree = .ok () after ↔
      ∃ place, tree.Takes path place ∧ after = tree.put place (.file bytes) := by
  rw [putBytes_apply]
  constructor
  · intro run
    split at run
    next place located =>
      split at run
      next => cases run
      next free =>
        cases run
        exact ⟨place, ⟨located, free⟩, rfl⟩
    next => cases run
  · rintro ⟨place, takes, rfl⟩
    rw [takes.located]
    exact if_neg takes.free

theorem makeTemporary_of_hasTemporary (temporary : tree.HasTemporary path) :
    makeTemporary path tree =
      .ok (tree.temporary path) (tree.put (tree.temporary path).parts (.file [])) := by
  obtain ⟨_, _, absent⟩ := tree.exists_temporary_eq path
  rw [makeTemporary_apply, temporary]
  dsimp only
  rw [absent]
  rfl

/-- The temporary file is empty at first, and then it is filled. -/
theorem putBytes_temporary (temporary : tree.HasTemporary path) :
    putBytes (tree.temporary path) bytes (tree.put (tree.temporary path).parts (.file [])) =
      .ok () (tree.put (tree.temporary path).parts (.file bytes)) := by
  have free := tree.at?_temporary_ne path
  rw [putBytes_apply, Tree.locate_temporary temporary []]
  dsimp only
  rw [Tree.at?_put_self free, if_neg (by simp), Tree.put_put]

/-- The temporary file is moved into a directory at the path, unless something of its name is there
already. -/
theorem moveFile_temporary_into_iff (temporary : tree.HasTemporary path)
    (isDirectory : tree.isDirectory path = true) :
    moveFile (tree.temporary path) path
        (tree.put (tree.temporary path).parts (.file bytes)) = .ok () after ↔
      ∃ place, tree.Swallows path place ∧ after = tree.put place (.file bytes) := by
  have free := tree.at?_temporary_ne path
  obtain ⟨_, _, absent⟩ := tree.exists_temporary_eq path
  have located := Tree.locate_temporary temporary bytes
  rw [moveFile_apply located (Tree.at?_put_self free) rfl, Tree.isDirectory_put free,
    Tree.remove_put absent, isDirectory, if_pos rfl]
  constructor
  · intro run
    split at run
    next place reached =>
      split at run
      next => cases run
      next fresh =>
        cases run
        rw [Bool.true_and, Option.not_isSome_iff_eq_none] at fresh
        have elsewhere : place ≠ (tree.temporary path).parts := by
          rintro rfl
          rw [Tree.at?_put_self free] at fresh
          cases fresh
        rw [Tree.at?_put_of_ne free elsewhere] at fresh
        exact ⟨place, ⟨isDirectory, (Tree.locate_put_iff free).mp reached, fresh, elsewhere⟩, rfl⟩
    next => cases run
  · rintro ⟨place, swallows, rfl⟩
    rw [(Tree.locate_put_iff free).mpr swallows.located]
    dsimp only
    rw [Tree.at?_put_of_ne free swallows.elsewhere, swallows.absent]
    rfl

/-- The temporary file takes the place of a file at the path, or is new there. -/
theorem moveFile_temporary_onto_iff (temporary : tree.HasTemporary path)
    (noDirectory : tree.isDirectory path = false) :
    moveFile (tree.temporary path) path
        (tree.put (tree.temporary path).parts (.file bytes)) = .ok () after ↔
      ∃ place, tree.Takes path place ∧ after = tree.put place (.file bytes) := by
  have free := tree.at?_temporary_ne path
  obtain ⟨_, _, absent⟩ := tree.exists_temporary_eq path
  have located := Tree.locate_temporary temporary bytes
  rw [moveFile_apply located (Tree.at?_put_self free) rfl, Tree.isDirectory_put free,
    Tree.remove_put absent, noDirectory, if_neg Bool.false_ne_true]
  constructor
  · intro run
    split at run
    next place reached =>
      cases run
      have takes := (Tree.takes_iff noDirectory).mpr ((Tree.locate_put_iff free).mp reached)
      exact ⟨place, takes, rfl⟩
    next => cases run
  · rintro ⟨place, takes, rfl⟩
    rw [(Tree.locate_put_iff free).mpr takes.located]
    rfl

/-- In either case it leaves no trace beside the path. -/
theorem moveFile_temporary_eq_ok_iff (temporary : tree.HasTemporary path) :
    moveFile (tree.temporary path) path
        (tree.put (tree.temporary path).parts (.file bytes)) = .ok () after ↔
      ∃ place, (tree.Takes path place ∨ tree.Swallows path place) ∧
        after = tree.put place (.file bytes) := by
  cases isDirectory : tree.isDirectory path with
  | true =>
      rw [moveFile_temporary_into_iff temporary isDirectory]
      refine exists_congr fun place => and_congr_left fun _ => (or_iff_right ?_).symm
      intro takes
      cases takes.isDirectory.symm.trans isDirectory
  | false =>
      rw [moveFile_temporary_onto_iff temporary isDirectory]
      refine exists_congr fun place => and_congr_left fun _ => (or_iff_left ?_).symm
      intro swallows
      cases swallows.isDirectory.symm.trans isDirectory

theorem eq_of_moveFile_temporary_eq_error (temporary : tree.HasTemporary path)
    (run : moveFile (tree.temporary path) path
      (tree.put (tree.temporary path).parts (.file bytes)) = .error failure after) :
    after = tree.put (tree.temporary path).parts (.file bytes) := by
  have free := tree.at?_temporary_ne path
  rw [moveFile_apply (Tree.locate_temporary temporary bytes) (Tree.at?_put_self free) rfl] at run
  split at run
  next =>
    split at run
    next => cases run; rfl
    next => cases run
  next => cases run; rfl

/-- Where a temporary file can be made, only moving it can fail, and then it is removed again. -/
theorem replaceFile_apply (temporary : tree.HasTemporary path) :
    replaceFile path bytes tree =
      match moveFile (tree.temporary path) path
        (tree.put (tree.temporary path).parts (.file bytes)) with
      | .ok () after => .ok () after
      | .error failure _ => .error failure tree := by
  obtain ⟨_, _, absent⟩ := tree.exists_temporary_eq path
  have free := tree.at?_temporary_ne path
  rw [replaceFile_eq]
  simp only [bind, EStateM.bind, makeTemporary_of_hasTemporary temporary, tryCatch_apply,
    putBytes_temporary temporary]
  cases moved : moveFile (tree.temporary path) path
      (tree.put (tree.temporary path).parts (.file bytes)) with
  | ok value after => rfl
  | error failure after =>
      cases eq_of_moveFile_temporary_eq_error temporary moved
      simp only [discard_apply (Tree.locate_temporary temporary bytes) (Tree.at?_put_self free),
        Tree.remove_put absent]
      rfl

theorem replaceFile_of_not_hasTemporary (rooted : (".." : Text) ∉ tree.workingDirectory)
    (cramped : ¬tree.HasTemporary path) (bytes : List UInt8) :
    ∃ failure, tree.locate (tree.temporary path) = .error failure ∧
      replaceFile path bytes tree = .error failure tree := by
  cases located : tree.locate (tree.temporary path) with
  | ok place =>
      obtain ⟨rfl, _⟩ := Tree.at?_eq_none_of_temporary rooted located
      exact absurd located cramped
  | error failure =>
      refine ⟨failure, rfl, ?_⟩
      rw [replaceFile_eq]
      refine bind_eq_error_iff.mpr (.inl ?_)
      rw [makeTemporary_apply, located]

theorem replaceFile_eq_ok_iff (rooted : (".." : Text) ∉ tree.workingDirectory) :
    replaceFile path bytes tree = .ok () after ↔
      tree.HasTemporary path ∧
        ∃ place, (tree.Takes path place ∨ tree.Swallows path place) ∧
          after = tree.put place (.file bytes) := by
  by_cases temporary : tree.HasTemporary path
  · rw [replaceFile_apply temporary, ← moveFile_temporary_eq_ok_iff temporary]
    simp only [temporary, true_and]
    cases moveFile (tree.temporary path) path
        (tree.put (tree.temporary path).parts (.file bytes)) with
    | ok value after => simp
    | error failure after => simp
  · obtain ⟨failure, _, run⟩ := replaceFile_of_not_hasTemporary rooted temporary bytes
    simp [run, temporary]

end Action

end EntityForge.Files
