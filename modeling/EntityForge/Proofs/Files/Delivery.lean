import EntityForge.Proofs.Files.Arrival
import EntityForge.Proofs.Text.Lines
import EntityForge.Proofs.Text.Utf8
import Mathlib.Algebra.GroupWithZero.Nat
import Mathlib.Data.List.Nodup
import Mathlib.Data.List.TakeWhile

/-!
# What a batch delivers

A batch leaves behind what its files leave behind one after the other.  It delivers its files, and
nothing else, exactly if the tree has room for them: no file may meet a directory, and no two may
meet each other.
-/

namespace EntityForge.Files

/-! ## One file after the other -/

theorem Action.writeBatch_cons_eq_ok_iff {base : Path} {atomic : Bool} {file : Text × Text}
    {rest : List (Text × Text)} {tree after : Tree} {written : Written} :
    writeBatch base atomic (file :: rest) tree = .ok written after ↔
      ∃ count middle more, writeFile (target base file) file.2 atomic tree = .ok count middle ∧
        writeBatch base atomic rest middle = .ok more after ∧
        written = ⟨more.files + 1, more.bytes + count⟩ :=
  Device.writeBatch_cons_eq_ok_iff

/-- What becomes of a tree in which files are written one after the other under a directory. -/
inductive Tree.Collects (base : Path) (atomic : Bool) :
    Tree → List (Text × Text) → Tree → Prop where
  | nil (tree : Tree) : Collects base atomic tree [] tree
  | cons {before middle after : Tree} {file : Text × Text} {rest : List (Text × Text)}
      {place : List Text}
      (first : before.Receives atomic middle (target base file) (Text.Utf8.encode file.2) place)
      (later : Collects base atomic middle rest after) :
      Collects base atomic before (file :: rest) after

/-- A batch that succeeds has written every file and counted it. -/
theorem Action.collects_of_writeBatch {base : Path} {atomic : Bool}
    {files : List (Text × Text)} {tree after : Tree} {written : Written}
    (rooted : (".." : Text) ∉ tree.workingDirectory)
    (run : writeBatch base atomic files tree = .ok written after) :
    tree.Collects base atomic files after ∧ written.files = files.length ∧
      written.bytes = (files.map fun file => (Text.Utf8.encode file.2).length).sum := by
  induction files generalizing tree written with
  | nil =>
      cases run
      exact ⟨.nil _, rfl, rfl⟩
  | cons file rest ih =>
      obtain ⟨count, middle, more, first, others, rfl⟩ := writeBatch_cons_eq_ok_iff.mp run
      obtain ⟨rfl, place, receives⟩ := exists_receives_of_writeFile rooted first
      have rootedMiddle : (".." : Text) ∉ middle.workingDirectory := by
        rw [receives.workingDirectory]
        exact rooted
      obtain ⟨collects, filesCount, bytesCount⟩ := ih rootedMiddle others
      refine ⟨.cons receives collects, congrArg (· + 1) filesCount, ?_⟩
      rw [List.map_cons, List.sum_cons, bytesCount]
      exact Nat.add_comm _ _

/-- How a place of a tree may have come to what stands there after a batch. -/
inductive Tree.Fate (base : Path) (atomic : Bool) (files : List (Text × Text))
    (before after : Tree) (place : List Text) : Prop where
  | kept (same : after.at? place = before.at? place)
  | made {file : Text × Text} (member : file ∈ files)
      (onTheWay : place ∈ (target base file).parent.passed before.workingDirectory)
      (absent : before.at? place = none) (found : after.at? place = some .directory)
  | written {file : Text × Text} (member : file ∈ files)
      (located : after.locate (target base file) = .ok place)
      (found : after.at? place = some (.file (Text.Utf8.encode file.2)))
  /-- A temporary file that was moved into the directory at the path of its target. -/
  | strayed {file : Text × Text} (member : file ∈ files) (isAtomic : atomic = true)
      (attempt : Nat) (shape : place = (target base file).place before.workingDirectory ++
        [temporaryName (target base file).name attempt])
      (isDirectory : after.isDirectory (target base file) = true)
      (absent : before.at? place = none)
      (found : after.at? place = some (.file (Text.Utf8.encode file.2)))

namespace Tree.Collects

variable {base : Path} {atomic : Bool} {before after : Tree} {files : List (Text × Text)}

theorem keeps (collects : before.Collects base atomic files after) : before.Keeps after := by
  induction collects with
  | nil tree => exact .refl tree
  | cons first later ih => exact first.keeps.trans ih

/-- What one file leaves at a place is what a batch leaves there that begins with it. -/
theorem fate (collects : before.Collects base atomic files after) (place : List Text) :
    Fate base atomic files before after place := by
  induction collects with
  | nil tree => exact .kept rfl
  | @cons before middle after file rest held first later ih =>
      have keeps := later.keeps
      have absentBefore (absent : middle.at? place = none) : before.at? place = none := by
        have different : place ≠ held := by
          intro same
          rw [same, first.received] at absent
          cases absent
        rcases first.elsewhere place different with same | ⟨_, absentBefore, _⟩
        · rw [← same, absent]
        · exact absentBefore
      cases ih with
      | kept same =>
          by_cases isHeld : place = held
          · subst isHeld
            have found := same.trans first.received
            rcases first.reached with
              ⟨_, _, located⟩ | ⟨isAtomic, isDirectory, absent, attempt, shape⟩
            · exact .written List.mem_cons_self (keeps.locate located) found
            · exact .strayed List.mem_cons_self isAtomic attempt shape
                (keeps.isDirectory isDirectory) absent found
          · rcases first.elsewhere place isHeld with untouched | ⟨onTheWay, absent, made⟩
            · exact .kept (same.trans untouched)
            · exact .made List.mem_cons_self onTheWay absent (same.trans made)
      | made member onTheWay absent found =>
          rw [first.workingDirectory] at onTheWay
          exact .made (List.mem_cons_of_mem _ member) onTheWay (absentBefore absent) found
      | written member located found =>
          exact .written (List.mem_cons_of_mem _ member) located found
      | strayed member isAtomic attempt shape isDirectory absent found =>
          rw [first.workingDirectory] at shape
          exact .strayed (List.mem_cons_of_mem _ member) isAtomic attempt shape isDirectory
            (absentBefore absent) found

/-- All directories on the way to a file are there. -/
theorem onTheWay (collects : before.Collects base atomic files after) {file : Text × Text}
    (member : file ∈ files) {place : List Text}
    (passed : place ∈ (target base file).parent.passed before.workingDirectory) :
    after.at? place = some .directory := by
  induction collects with
  | nil tree => cases member
  | cons first later ih =>
      cases member with
      | head => exact later.keeps.directories place (first.onTheWay place passed)
      | tail _ member =>
          rw [← first.workingDirectory] at passed
          exact ih member passed

/-- A file that meets no directory is at its place, unless a later one with the same place has
replaced it. -/
theorem exists_at?_of_member (collects : before.Collects base atomic files after)
    {file : Text × Text} (member : file ∈ files)
    (free : after.isDirectory (target base file) = false) :
    ∃ place, after.locate (target base file) = .ok place ∧ ∃ last ∈ files,
      after.locate (target base last) = .ok place ∧
        after.at? place = some (.file (Text.Utf8.encode last.2)) := by
  induction collects with
  | nil tree => cases member
  | @cons before middle after first rest held receives later ih =>
      cases member with
      | head =>
          rcases receives.reached with ⟨_, _, located⟩ | ⟨_, isDirectory, _⟩
          · have locatedAfter := later.keeps.locate located
            refine ⟨held, locatedAfter, ?_⟩
            cases later.fate held with
            | kept same =>
                exact ⟨_, List.mem_cons_self, locatedAfter, same.trans receives.received⟩
            | written member located found =>
                exact ⟨_, List.mem_cons_of_mem _ member, located, found⟩
            | made _ _ absent | strayed _ _ _ _ _ absent =>
                rw [receives.received] at absent
                cases absent
          · rw [later.keeps.isDirectory isDirectory] at free
            cases free
      | tail _ member =>
          obtain ⟨place, located, last, inRest, found⟩ := ih member free
          exact ⟨place, located, last, List.mem_cons_of_mem _ inRest, found⟩

end Tree.Collects

/-! ## Room for a batch -/

/-- Whether a batch brought its files to a tree and did nothing else to its files: each one is at
its path with its text, and elsewhere there are at most new directories. -/
structure Tree.Delivers (base : Path) (files : List (Text × Text)) (before after : Tree) :
    Prop where
  delivered : ∀ file ∈ files,
    after.find (target base file) = .ok (some (.file (Text.Utf8.encode file.2)))
  undisturbed : ∀ place,
    (∀ file ∈ files, place ≠ (target base file).place before.workingDirectory) →
    after.at? place = before.at? place ∨
      before.at? place = none ∧ after.at? place = some .directory

/-- Whether a tree has room for a batch: no place of a file is that of a directory, be it there
before or made on the way to another file, and no place is meant for two different texts. -/
structure Tree.HasRoom (tree : Tree) (base : Path) (files : List (Text × Text)) : Prop where
  free : ∀ file ∈ files,
    tree.at? ((target base file).place tree.workingDirectory) ≠ some .directory
  offTheWay : ∀ file ∈ files, ∀ other ∈ files,
    (target base file).place tree.workingDirectory ∉
      (target base other).parent.passed tree.workingDirectory
  agree : ∀ file ∈ files, ∀ other ∈ files,
    (target base file).place tree.workingDirectory =
      (target base other).place tree.workingDirectory → file.2 = other.2

namespace Tree.Collects

variable {base : Path} {atomic : Bool} {before after : Tree} {files : List (Text × Text)}

theorem eq_place_of_locate (collects : before.Collects base atomic files after) {path : Path}
    {place : List Text} (located : after.locate path = .ok place) :
    place = path.place before.workingDirectory := by
  rw [← collects.keeps.workingDirectory]
  exact Tree.eq_place_of_locate located

theorem isDirectory_eq_false (collects : before.Collects base atomic files after)
    (room : before.HasRoom base files) {file : Text × Text} (member : file ∈ files) :
    after.isDirectory (target base file) = false := by
  rw [Bool.eq_false_iff]
  intro isDirectory
  obtain ⟨place, located, found⟩ := Tree.isDirectory_iff.mp isDirectory
  have isPlace := collects.eq_place_of_locate located
  subst isPlace
  cases collects.fate ((target base file).place before.workingDirectory) with
  | kept same => exact room.free file member (same.symm.trans found)
  | made other onTheWay => exact room.offTheWay file member _ other onTheWay
  | written _ _ isFile | strayed _ _ _ _ _ _ isFile => cases found.symm.trans isFile

/-- A batch that succeeds has delivered its files exactly if the tree had room for them. -/
theorem delivers_iff (collects : before.Collects base atomic files after) :
    Delivers base files before after ↔ before.HasRoom base files := by
  constructor
  · intro delivers
    have isFile (file) (member : file ∈ files) :
        after.at? ((target base file).place before.workingDirectory) =
          some (.file (Text.Utf8.encode file.2)) := by
      obtain ⟨place, located, found⟩ := find_eq_ok_some_iff.mp (delivers.delivered file member)
      rw [← collects.eq_place_of_locate located, found]
    constructor
    case free =>
      intro file member isDirectory
      cases (isFile file member).symm.trans (collects.keeps.directories _ isDirectory)
    case offTheWay =>
      intro file member other inFiles passed
      cases (isFile file member).symm.trans (collects.onTheWay inFiles passed)
    case agree =>
      intro file member other inFiles same
      have both := isFile file member
      rw [same, isFile other inFiles] at both
      simpa only [Option.some.injEq, Content.file.injEq, Text.Utf8.encode_inj, eq_comm] using both
  · intro room
    constructor
    case delivered =>
      intro file member
      obtain ⟨place, located, last, inFiles, again, found⟩ :=
        collects.exists_at?_of_member member (collects.isDirectory_eq_false room member)
      have sameText := room.agree file member last inFiles
        ((collects.eq_place_of_locate located).symm.trans (collects.eq_place_of_locate again))
      rw [← sameText] at found
      exact find_eq_ok_some_iff.mpr ⟨place, located, found⟩
    case undisturbed =>
      intro place noTarget
      cases collects.fate place with
      | kept same => exact .inl same
      | made _ _ absent found => exact .inr ⟨absent, found⟩
      | written member located =>
          exact absurd (collects.eq_place_of_locate located) (noTarget _ member)
      | strayed member _ _ _ isDirectory =>
          rw [collects.isDirectory_eq_false room member] at isDirectory
          cases isDirectory

/-- What stands at a place that no file is meant for is never lost, room or not. -/
theorem at?_eq_some (collects : before.Collects base atomic files after) {place : List Text}
    {content : Content} (found : before.at? place = some content)
    (noTarget : ∀ file ∈ files, place ≠ (target base file).place before.workingDirectory) :
    after.at? place = some content := by
  cases collects.fate place with
  | kept same => rw [same, found]
  | written member located =>
      exact absurd (collects.eq_place_of_locate located) (noTarget _ member)
  | made _ _ absent | strayed _ _ _ _ _ absent =>
      rw [found] at absent
      cases absent

end Tree.Collects

/-! ## Names of single parts -/

namespace Path

variable {path : Path} {name : Text} {directory place : List Text}

/-- A name without slashes is a path of one part. -/
theorem ofText_eq_singleton (noSlash : .scalar '/' ∉ name.toList) (part : isPart name = true) :
    ofText name = ⟨"", [name]⟩ := by
  have noRoot : name.toList.takeWhile (· == .scalar '/') = [] := by
    rw [List.eq_nil_iff_forall_not_mem]
    intro character taken
    have isSlash : character = '/' := by simpa using List.mem_takeWhile_imp taken
    subst isSlash
    exact noSlash ((List.takeWhile_sublist _).subset taken)
  simp [ofText, noRoot, Text.pieces, Text.splitOn_of_notMem noSlash, part]

theorem length_le_of_mem_passed (plain : (".." : Text) ∉ path.parts)
    (passed : place ∈ path.passed directory) :
    place.length ≤ (path.place directory).length := by
  obtain ⟨front, isFront, rfl⟩ := mem_passed_iff.mp passed
  have plainFront : (".." : Text) ∉ front := fun member => plain (isFront.subset member)
  have whole : path.place directory = path.start directory ++ path.parts :=
    foldl_follow_eq_append plain
  rw [whole, foldl_follow_eq_append plainFront, List.length_append, List.length_append]
  exact Nat.add_le_add_left isFront.length_le _

end Path

/-- With names of single parts in a directory without double dots, only a directory that is there
already can be in the way. -/
theorem Tree.hasRoom_iff {tree : Tree} {base : Path} {files : List (Text × Text)}
    (plain : (".." : Text) ∉ base.parts)
    (single : ∀ file ∈ files, Path.ofText file.1 = ⟨"", [file.1]⟩ ∧ file.1 ≠ "..")
    (distinct : (files.map Prod.fst).Nodup) :
    tree.HasRoom base files ↔
      ∀ file ∈ files,
        tree.at? (base.place tree.workingDirectory ++ [file.1]) ≠ some .directory := by
  have isChild (file) (member : file ∈ files) : target base file = base.child file.1 := by
    rw [target, (single file member).1]
    rfl
  have placed (file) (member : file ∈ files) :
      (target base file).place tree.workingDirectory =
        base.place tree.workingDirectory ++ [file.1] := by
    rw [isChild file member, Path.place_child (single file member).2]
  constructor
  · intro room file member
    rw [← placed file member]
    exact room.free file member
  · intro free
    constructor
    case free =>
      intro file member
      rw [placed file member]
      exact free file member
    case offTheWay =>
      intro file member other inFiles passed
      rw [isChild other inFiles, Path.parent_child, placed file member] at passed
      have short := Path.length_le_of_mem_passed plain passed
      rw [List.length_append, List.length_singleton] at short
      omega
    case agree =>
      intro file member other inFiles same
      rw [placed file member, placed other inFiles, List.append_cancel_left_eq,
        List.singleton_inj] at same
      rw [List.inj_on_of_nodup_map distinct member inFiles same]

end EntityForge.Files
