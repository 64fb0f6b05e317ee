import EntityForge.Proofs.Files.Batches
import EntityForge.Proofs.Files.Temporary

/-!
# What each action does

Every action on a file tree as a function of the tree that it starts from.  An action that fails
before it has changed anything leaves the tree as it was.
-/

namespace EntityForge.Files

/-! ## The calls on a tree -/

namespace Action

variable {tree after : Tree} {path : Path} {place : List Text}

theorem locate_apply (path : Path) (tree : Tree) :
    locate path tree =
      match tree.locate path with
      | .ok place => .ok place tree
      | .error failure => .error failure tree := by
  rw [locate, get_bind]
  cases tree.locate path with
  | ok place => rfl
  | error failure => rfl

theorem unlessDirectory_apply (path : Path) (failure : Failure) (tree : Tree) :
    unlessDirectory path failure tree =
      if tree.isDirectory path then .ok () tree else .error failure tree := by
  rw [unlessDirectory, Device.unlessDirectory, get_bind]
  change (if tree.isDirectory path then pure () else throw failure : Action Unit) tree = _
  cases tree.isDirectory path with
  | true => rfl
  | false => rfl

theorem makeDirectory_apply (path : Path) (tree : Tree) :
    makeDirectory path tree =
      match tree.locate path with
      | .ok place =>
          if (tree.at? place).isSome then .error (.system .alreadyExists path) tree
          else .ok () (tree.put place .directory)
      | .error failure => .error failure tree := by
  simp only [makeDirectory, bind, EStateM.bind, locate_apply]
  cases tree.locate path with
  | ok place =>
      simp only [get, getThe, MonadStateOf.get]
      delta EStateM.get
      dsimp only
      cases (tree.at? place).isSome with
      | true => rfl
      | false => rfl
  | error failure => rfl

theorem putBytes_apply (path : Path) (bytes : List UInt8) (tree : Tree) :
    putBytes path bytes tree =
      match tree.locate path with
      | .ok place =>
          if tree.at? place = some .directory then .error (.system .isADirectory path) tree
          else .ok () (tree.put place (.file bytes))
      | .error failure => .error failure tree := by
  simp only [putBytes, bind, EStateM.bind, locate_apply]
  cases tree.locate path with
  | ok place =>
      simp only [get, getThe, MonadStateOf.get]
      delta EStateM.get
      dsimp only
      cases tree.at? place with
      | none => rfl
      | some content =>
          cases content with
          | file bytes => rfl
          | directory => rfl
  | error failure => rfl

theorem makeTemporary_apply (path : Path) (tree : Tree) :
    makeTemporary path tree =
      match tree.locate (tree.temporary path) with
      | .ok place =>
          if (tree.at? place).isSome then
            .error (.system .alreadyExists (tree.temporary path)) tree
          else .ok (tree.temporary path) (tree.put place (.file []))
      | .error failure => .error failure tree := by
  rw [makeTemporary, get_bind]
  simp only [bind, EStateM.bind, locate_apply]
  cases tree.locate (tree.temporary path) with
  | ok place =>
      simp only [get, getThe, MonadStateOf.get]
      delta EStateM.get
      dsimp only
      cases (tree.at? place).isSome with
      | true => rfl
      | false => rfl
  | error failure => rfl

theorem readBytes_eq {bytes : List UInt8} (located : tree.locate path = .ok place)
    (stands : tree.at? place = some (.file bytes)) : tree.readBytes path = .ok bytes := by
  rw [Tree.readBytes, located]
  simp only [bind, Except.bind, stands]
  rfl

theorem remove_apply (path : Path) (tree : Tree) :
    remove path tree =
      match tree.locate path with
      | .ok place => .ok () (tree.remove place)
      | .error failure => .error failure tree := by
  simp only [remove, bind, EStateM.bind, locate_apply]
  cases tree.locate path with
  | ok place => rfl
  | error failure => rfl

theorem rename_apply {source goal : Path} {origin : List Text} {content : Content}
    (located : tree.locate source = .ok origin) (stands : tree.at? origin = some content) :
    rename source goal tree =
      match tree.locate goal with
      | .ok place =>
          if tree.at? place = some .directory then .error (.system .isADirectory goal) tree
          else .ok () ((tree.remove origin).put place content)
      | .error failure => .error failure tree := by
  simp only [rename, bind, EStateM.bind, locate_apply, located]
  cases tree.locate goal with
  | ok place =>
      simp only [get, getThe, MonadStateOf.get]
      delta EStateM.get
      dsimp only
      rw [stands]
      cases tree.at? place with
      | none => rfl
      | some content =>
          cases content with
          | file bytes => rfl
          | directory => rfl
  | error failure => rfl

theorem leads_iff : tree.leads path = true ↔
    ∃ place content, tree.locate path = .ok place ∧ tree.at? place = some content := by
  rw [Tree.leads]
  cases found : tree.find path with
  | ok content =>
      cases content with
      | none =>
          refine iff_of_false Bool.false_ne_true ?_
          rintro ⟨place, content, stands⟩
          cases found.symm.trans (Tree.find_eq_ok_some_iff.mpr ⟨place, stands⟩)
      | some content =>
          obtain ⟨place, stands⟩ := Tree.find_eq_ok_some_iff.mp found
          exact iff_of_true rfl ⟨place, content, stands⟩
  | error failure =>
      refine iff_of_false Bool.false_ne_true ?_
      rintro ⟨place, content, stands⟩
      cases found.symm.trans (Tree.find_eq_ok_some_iff.mpr ⟨place, stands⟩)

/-- What cannot be moved to a path cannot be copied to it, either. -/
theorem moveTo_apply {source goal : Path} {origin : List Text} {bytes : List UInt8}
    (located : tree.locate source = .ok origin) (stands : tree.at? origin = some (.file bytes)) :
    Tree.device.moveTo source goal tree =
      match tree.locate goal with
      | .ok place =>
          if tree.at? place = some .directory then .error (.system .isADirectory goal) tree
          else .ok () ((tree.remove origin).put place (.file bytes))
      | .error failure => .error failure tree := by
  rw [Device.moveTo, tryCatch_apply]
  dsimp only [Tree.device]
  rw [rename_apply located stands]
  cases refused : tree.locate goal with
  | ok place =>
      dsimp only
      by_cases isDirectory : tree.at? place = some .directory
      · have isSystem : (Failure.system .isADirectory goal).isSystemFailure = true := rfl
        simp only [if_pos isDirectory]
        rw [if_pos isSystem, get_bind, readBytes_eq located stands]
        refine bind_eq_error_iff.mpr (.inl ?_)
        rw [putBytes_apply, refused]
        exact if_pos isDirectory
      · simp only [if_neg isDirectory]
  | error failure =>
      dsimp only
      split
      next =>
        rw [get_bind, readBytes_eq located stands]
        refine bind_eq_error_iff.mpr (.inl ?_)
        rw [putBytes_apply, refused]
      next => rfl

/-- A file is moved to the path, or into the directory to which the path leads. -/
theorem moveFile_apply {source target goal : Path} {origin : List Text} {bytes : List UInt8}
    (located : tree.locate source = .ok origin) (stands : tree.at? origin = some (.file bytes))
    (isGoal : (if tree.isDirectory target then target.child source.name else target) = goal) :
    moveFile source target tree =
      match tree.locate goal with
      | .ok place =>
          if tree.isDirectory target && (tree.at? place).isSome then
            .error (.destinationTaken goal) tree
          else .ok () ((tree.remove origin).put place (.file bytes))
      | .error failure => .error failure tree := by
  have moved := @moveTo_apply tree source goal origin bytes located stands
  rw [moveFile, Device.moveFile, get_bind]
  change (if tree.isDirectory target then
    get >>= fun tree =>
      if tree.leads (target.child source.name) then
        throw (Failure.destinationTaken (target.child source.name)) >>= fun _ =>
          Tree.device.moveTo source (target.child source.name)
      else Tree.device.moveTo source (target.child source.name)
    else Tree.device.moveTo source target : Action Unit) tree = _
  cases inside : tree.isDirectory target with
  | false =>
      rw [inside, if_neg Bool.false_ne_true] at isGoal
      rw [if_neg Bool.false_ne_true, isGoal, moved]
      cases found : tree.locate goal with
      | error failure => rfl
      | ok place =>
          have free : tree.at? place ≠ some .directory := by
            intro there
            rw [isGoal, Tree.isDirectory_iff.mpr ⟨place, found, there⟩] at inside
            cases inside
          exact if_neg free
  | true =>
      rw [inside, if_pos rfl] at isGoal
      rw [if_pos rfl, get_bind, isGoal]
      cases taken : tree.leads goal with
      | true =>
          obtain ⟨place, content, found, there⟩ := leads_iff.mp taken
          rw [found, if_pos rfl]
          change _ = if true && (tree.at? place).isSome then _ else _
          rw [there]
          rfl
      | false =>
          rw [if_neg Bool.false_ne_true, moved]
          cases found : tree.locate goal with
          | error failure => rfl
          | ok place =>
              have free : tree.at? place = none := by
                by_contra there
                obtain ⟨content, there⟩ := Option.ne_none_iff_exists'.mp there
                rw [leads_iff.mpr ⟨place, content, found, there⟩] at taken
                cases taken
              dsimp only
              rw [free]
              rfl

/-- What is removed if it is there. -/
theorem discard_apply (located : tree.locate path = .ok place) {content : Content}
    (stands : tree.at? place = some content) :
    Tree.device.discard path tree = .ok () (tree.remove place) := by
  rw [Device.discard, get_bind]
  change (if tree.leads path then remove path else pure () : Action Unit) tree = _
  rw [if_pos (leads_iff.mpr ⟨place, content, located, stands⟩), remove_apply, located]

/-! ## Directories and files -/

theorem ensureLast_eq (path : Path) :
    ensureLast path = tryCatch (makeDirectory path) fun failure =>
      match failure with
      | .system .missing _ => throw failure
      | _ => unlessDirectory path failure :=
  rfl

theorem ensureDirectory_eq (path : Path) :
    ensureDirectory path = tryCatch (makeDirectory path) fun failure =>
      match failure with
      | .system .missing _ =>
          if path.parts = [] then throw failure
          else ensureDirectory path.parent >>= fun _ => ensureLast path
      | _ => unlessDirectory path failure := by
  rw [ensureDirectory, Device.ensureDirectory]
  rfl

theorem replaceFile_eq (path : Path) (bytes : List UInt8) :
    replaceFile path bytes = makeTemporary path >>= fun temporary =>
      tryCatch (putBytes temporary bytes >>= fun _ => moveFile temporary path) fun failure =>
        Tree.device.discard temporary >>= fun _ => throw failure :=
  rfl

theorem writeFile_eq (path : Path) (text : Text) (atomic : Bool) :
    writeFile path text atomic = ensureDirectory path.parent >>= fun _ =>
      Device.bytesOf text >>= fun bytes =>
        (if atomic then replaceFile path bytes else putBytes path bytes) >>= fun _ =>
          return bytes.length := by
  cases atomic <;> rfl

end Action

end EntityForge.Files
