import EntityForge.Files.Tree
import Mathlib.Data.List.Infix

/-!
# Places in a file tree

Where a path leads is read off the path, and whether it leads there depends on the directories of
the tree alone.  So a path that leads to a place still leads there when no directory is lost,
whatever becomes of the files.
-/

namespace EntityForge.Files

namespace Path

/-- The place that an absolute or relative path is followed from. -/
def start (path : Path) (directory : List Text) : List Text :=
  if path.isAbsolute then [] else directory

/-- The place of a path, seen from a directory. -/
def place (path : Path) (directory : List Text) : List Text :=
  (path.resolve directory).parts

/-- The places on the way along a path, from its start up to its own place. -/
def passed (path : Path) (directory : List Text) : List (List Text) :=
  path.parts.inits.map fun parts => parts.foldl follow (path.start directory)

variable {path : Path} {directory place : List Text}

theorem mem_passed_iff :
    place ∈ path.passed directory ↔
      ∃ parts, parts <+: path.parts ∧ parts.foldl follow (path.start directory) = place := by
  simp only [passed, List.mem_map, List.mem_inits]

theorem place_mem_passed (path : Path) (directory : List Text) :
    path.place directory ∈ path.passed directory :=
  mem_passed_iff.mpr ⟨path.parts, List.prefix_rfl, rfl⟩

theorem passed_parent_subset (path : Path) (directory : List Text) :
    path.parent.passed directory ⊆ path.passed directory := by
  intro place found
  obtain ⟨parts, front, leads⟩ := mem_passed_iff.mp found
  exact mem_passed_iff.mpr ⟨parts, front.trans (List.dropLast_prefix _), leads⟩

/-- Double dots are followed, never kept. -/
theorem doubleDots_notMem_foldl_follow {parts start : List Text} (rooted : (".." : Text) ∉ start) :
    (".." : Text) ∉ parts.foldl follow start := by
  induction parts generalizing start with
  | nil => exact rooted
  | cons part rest ih =>
      apply ih
      rw [follow]
      split
      next => exact fun member => rooted (List.dropLast_subset _ member)
      next other =>
        rw [List.mem_append, List.mem_singleton, not_or]
        exact ⟨rooted, fun same => other same.symm⟩

theorem doubleDots_notMem_place (rooted : (".." : Text) ∉ directory) :
    (".." : Text) ∉ path.place directory := by
  apply doubleDots_notMem_foldl_follow
  split
  next => exact List.not_mem_nil
  next => exact rooted

/-- Without double dots every part leads one level down. -/
theorem foldl_follow_eq_append {parts start : List Text} (plain : (".." : Text) ∉ parts) :
    parts.foldl follow start = start ++ parts := by
  induction parts generalizing start with
  | nil => exact (List.append_nil start).symm
  | cons part rest ih =>
      rw [List.mem_cons, not_or] at plain
      rw [List.foldl_cons, ih plain.2, follow, if_neg fun same => plain.1 same.symm,
        List.append_assoc]
      rfl

theorem place_eq_parts (absolute : path.isAbsolute = true) (plain : (".." : Text) ∉ path.parts) :
    path.place directory = path.parts := by
  rw [place, resolve, if_pos absolute]
  exact foldl_follow_eq_append plain

theorem parent_child (path : Path) (name : Text) : (path.child name).parent = path := by
  simp [parent, child]

theorem name_child (path : Path) (name : Text) : (path.child name).name = name := by
  simp [Path.name, child]

theorem place_child {name : Text} (proper : name ≠ "..") :
    (path.child name).place directory = path.place directory ++ [name] := by
  simp only [place, resolve, child, List.foldl_append, List.foldl_cons, List.foldl_nil]
  exact if_neg proper

end Path

namespace Tree

variable {tree before middle after : Tree} {path : Path} {place goal : List Text}

/-! ## Changes at one place -/

theorem lookup_filter_ne (nodes : List (List Text × Content)) (place other : List Text) :
    (nodes.filter (·.1 != place)).lookup other =
      if other = place then none else nodes.lookup other := by
  induction nodes with
  | nil => simp
  | cons node rest ih =>
      obtain ⟨key, content⟩ := node
      by_cases kept : key = place
      · subst kept
        rw [List.filter_cons_of_neg (by simp), ih, List.lookup_cons]
        by_cases found : other = key
        · rw [if_pos found, if_pos found]
        · rw [if_neg found, if_neg found, beq_false_of_ne found]
      · rw [List.filter_cons_of_pos (by simpa using kept), List.lookup_cons, List.lookup_cons, ih]
        by_cases found : other = key
        · subst found
          simp only [beq_self_eq_true, if_neg kept]
        · rw [beq_false_of_ne found]

theorem at?_put (proper : place ≠ []) (content : Content) (other : List Text) :
    (tree.put place content).at? other =
      if other = place then some content else tree.at? other := by
  rw [at?, at?, put]
  cases other with
  | nil => exact (if_neg fun same => proper same.symm).symm
  | cons name names =>
      simp only [List.isEmpty_cons, Bool.false_eq_true, if_false, List.lookup_cons]
      by_cases same : name :: names = place
      · subst same
        simp
      · rw [if_neg same, beq_false_of_ne same, lookup_filter_ne, if_neg same]

theorem ne_nil_of_at?_eq_none (absent : tree.at? place = none) : place ≠ [] := by
  intro isRoot
  subst isRoot
  cases absent

/-- What is put where nothing stood and removed again leaves no trace. -/
theorem remove_put (absent : tree.at? place = none) (content : Content) :
    (tree.put place content).remove place = tree := by
  have proper := ne_nil_of_at?_eq_none absent
  rw [at?, if_neg (by simpa using proper), List.lookup_eq_none_iff] at absent
  have others : tree.nodes.filter (·.1 != place) = tree.nodes := by
    refine List.filter_eq_self.mpr ?_
    intro node member
    rw [bne_comm]
    exact absent node member
  rw [remove, put, List.filter_cons_of_neg (by simp), others, others]

/-! ## Where a path leads -/

theorem walk_cons_eq_ok_iff {part : Text} {rest : List Text} :
    tree.walk place (part :: rest) = .ok goal ↔
      tree.at? place = some .directory ∧ (part = ".." ∨ Text.Utf8.nameSize part ≤ nameLimit) ∧
        tree.walk (Path.follow place part) rest = .ok goal := by
  rw [walk]
  split
  next absent => simp [absent]
  next bytes isFile => simp [isFile]
  next isDirectory =>
    rw [isDirectory]
    split
    next tooLong =>
      have long : ¬(part = ".." ∨ Text.Utf8.nameSize part ≤ nameLimit) := by
        rw [not_or, Nat.not_le]
        exact tooLong
      simp [long]
    next fits =>
      have short : part = ".." ∨ Text.Utf8.nameSize part ≤ nameLimit := by
        by_contra long
        rw [not_or, Nat.not_le] at long
        exact fits long
      simp [short]

theorem eq_foldl_of_walk {parts : List Text} (walked : tree.walk place parts = .ok goal) :
    goal = parts.foldl Path.follow place := by
  induction parts generalizing place with
  | nil =>
      cases walked
      rfl
  | cons part rest ih => exact ih (walk_cons_eq_ok_iff.mp walked).2.2

/-- All that is passed before the end is a directory. -/
theorem isDirectory_of_walk {parts front : List Text}
    (walked : tree.walk place parts = .ok goal) (isFront : front <+: parts)
    (proper : front ≠ parts) : tree.at? (front.foldl Path.follow place) = some .directory := by
  induction parts generalizing place front with
  | nil => exact absurd (List.prefix_nil.mp isFront) proper
  | cons part rest ih =>
      obtain ⟨here, _, walked⟩ := walk_cons_eq_ok_iff.mp walked
      cases front with
      | nil => exact here
      | cons first others =>
          obtain ⟨rfl, inRest⟩ := List.cons_prefix_cons.mp isFront
          rw [List.foldl_cons]
          exact ih walked inRest fun same => proper (congrArg _ same)

theorem locate_eq_ok_iff :
    tree.locate path = .ok place ↔
      path.fault? = none ∧ Text.Utf8.nameSize path.text < pathLimit ∧
        tree.walk (path.start tree.workingDirectory) path.parts = .ok place := by
  rw [locate]
  split
  next failure found => simp only [found, reduceCtorEq, false_and]
  next plain =>
    split
    next long => simp only [reduceCtorEq, Nat.not_lt.mpr long, false_and, and_false]
    next short =>
      rw [Path.start]
      dsimp only
      cases tree.walk _ path.parts with
      | ok goal =>
          simp only [plain, Nat.not_le.mp short, true_and, Except.mapError, Except.ok.injEq]
      | error cause => simp only [Except.mapError, reduceCtorEq, and_false]

/-- A path leads to its place or nowhere. -/
theorem eq_place_of_locate (located : tree.locate path = .ok place) :
    place = path.place tree.workingDirectory :=
  eq_foldl_of_walk (locate_eq_ok_iff.mp located).2.2

theorem find_eq_ok_some_iff {content : Content} :
    tree.find path = .ok (some content) ↔
      ∃ place, tree.locate path = .ok place ∧ tree.at? place = some content := by
  rw [find]
  split
  next place located => simp [located]
  next failed => simp [failed]
  next failure _ failed => simp [failed]

theorem isDirectory_iff :
    tree.isDirectory path = true ↔
      ∃ place, tree.locate path = .ok place ∧ tree.at? place = some .directory := by
  rw [← find_eq_ok_some_iff, isDirectory]
  split
  next found => simp [found]
  next other => simpa using other

/-- A path to a directory passes directories only. -/
theorem isDirectory_of_mem_passed (isDirectory : tree.isDirectory path = true)
    (passed : place ∈ path.passed tree.workingDirectory) :
    tree.at? place = some .directory := by
  obtain ⟨goal, located, found⟩ := isDirectory_iff.mp isDirectory
  obtain ⟨front, isFront, rfl⟩ := Path.mem_passed_iff.mp passed
  by_cases whole : front = path.parts
  · subst whole
    rw [eq_place_of_locate located] at found
    exact found
  · exact isDirectory_of_walk (locate_eq_ok_iff.mp located).2.2 isFront whole

/-! ## Trees that keep their directories -/

/-- Whether the directories of a tree are still directories in another one, which is seen from the
same place. -/
structure Keeps (before after : Tree) : Prop where
  workingDirectory : after.workingDirectory = before.workingDirectory
  directories : ∀ place, before.at? place = some .directory → after.at? place = some .directory

namespace Keeps

theorem refl (tree : Tree) : tree.Keeps tree :=
  ⟨rfl, fun _ found => found⟩

theorem trans (first : before.Keeps middle) (second : middle.Keeps after) : before.Keeps after :=
  ⟨second.workingDirectory.trans first.workingDirectory,
    fun place found => second.directories place (first.directories place found)⟩

theorem walk {parts : List Text} (kept : before.Keeps after)
    (walked : before.walk place parts = .ok goal) : after.walk place parts = .ok goal := by
  induction parts generalizing place with
  | nil => exact walked
  | cons part rest ih =>
      obtain ⟨here, short, walked⟩ := walk_cons_eq_ok_iff.mp walked
      exact walk_cons_eq_ok_iff.mpr ⟨kept.directories _ here, short, ih walked⟩

theorem locate (kept : before.Keeps after) (located : before.locate path = .ok place) :
    after.locate path = .ok place := by
  rw [locate_eq_ok_iff] at located ⊢
  rw [kept.workingDirectory]
  exact ⟨located.1, located.2.1, kept.walk located.2.2⟩

theorem isDirectory (kept : before.Keeps after) (found : before.isDirectory path = true) :
    after.isDirectory path = true := by
  rw [isDirectory_iff] at found ⊢
  obtain ⟨place, located, here⟩ := found
  exact ⟨place, kept.locate located, kept.directories place here⟩

end Keeps

/-! ## Trees that gain directories -/

/-- Whether a tree differs from an earlier one only in directories that were made at certain
places, where nothing had been. -/
structure Gains (before after : Tree) (places : List (List Text)) : Prop where
  workingDirectory : after.workingDirectory = before.workingDirectory
  gained : ∀ place, after.at? place = before.at? place ∨
    place ∈ places ∧ before.at? place = none ∧ after.at? place = some .directory

namespace Gains

variable {places more : List (List Text)}

theorem refl (tree : Tree) (places : List (List Text)) : tree.Gains tree places :=
  ⟨rfl, fun _ => .inl rfl⟩

theorem mono (gains : before.Gains after places) (inMore : places ⊆ more) :
    before.Gains after more :=
  ⟨gains.workingDirectory, fun place =>
    (gains.gained place).imp_right fun new => ⟨inMore new.1, new.2⟩⟩

theorem trans (first : before.Gains middle places) (second : middle.Gains after places) :
    before.Gains after places := by
  refine ⟨second.workingDirectory.trans first.workingDirectory, ?_⟩
  intro place
  rcases second.gained place with same | ⟨inPlaces, absent, made⟩
  · rw [same]
    exact first.gained place
  · rcases first.gained place with same | ⟨_, _, made⟩
    · rw [same] at absent
      exact .inr ⟨inPlaces, absent, made⟩
    · rw [made] at absent
      cases absent

theorem keeps (gains : before.Gains after places) : before.Keeps after := by
  refine ⟨gains.workingDirectory, ?_⟩
  intro place found
  rcases gains.gained place with same | ⟨_, _, made⟩
  · rw [same, found]
  · exact made

theorem put (absent : tree.at? place = none) (inPlaces : place ∈ places) :
    tree.Gains (tree.put place .directory) places := by
  refine ⟨rfl, ?_⟩
  intro other
  rw [at?_put (ne_nil_of_at?_eq_none absent)]
  split
  next same =>
    subst same
    exact .inr ⟨inPlaces, absent, rfl⟩
  next => exact .inl rfl

end Gains

end Tree

end EntityForge.Files
