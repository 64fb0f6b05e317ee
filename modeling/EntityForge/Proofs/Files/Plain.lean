import EntityForge.Files.Device
import EntityForge.Proofs.Text.Lines
import EntityForge.Proofs.Text.Utf8

/-!
# Paths that can be followed

The null character cannot stand in a path, nor can a surrogate that stands for no byte.  The paths
without them are closed under all that is done with paths, and a path is one of them exactly if its
written form is without them.
-/

namespace EntityForge.Files

/-- Whether a code point can stand in the name of a file. -/
def isPlainPoint (point : Point) : Bool :=
  point != .scalar '\x00' && (!point.isSurrogate || point.isEscapedByte)

/-- A text that can stand in a path. -/
def IsPlainText (text : Text) : Prop :=
  ∀ point ∈ text.toList, isPlainPoint point = true

instance (text : Text) : Decidable (IsPlainText text) :=
  inferInstanceAs (Decidable (∀ point ∈ text.toList, isPlainPoint point = true))

/-- A path whose parts can stand in it. -/
structure Path.IsPlain (path : Path) : Prop where
  root : IsPlainText path.root
  parts : ∀ part ∈ path.parts, IsPlainText part

theorem isPlainText_append_iff {left right : Text} :
    IsPlainText (left ++ right) ↔ IsPlainText left ∧ IsPlainText right := by
  rw [IsPlainText, Text.toList_append, List.forall_mem_append]
  rfl

theorem isPlainText_intercalate_iff {parts : List Text} :
    IsPlainText (Text.intercalate "/" parts) ↔ ∀ part ∈ parts, IsPlainText part := by
  constructor
  · intro plain part member point inPart
    apply plain
    rw [Text.toList_intercalate]
    exact Text.subset_intercalate (List.mem_map_of_mem member) inPart
  · intro each point member
    rw [Text.toList_intercalate] at member
    rcases Text.mem_intercalate member with separator | ⟨piece, found, inPiece⟩
    · cases List.mem_singleton.mp separator
      decide
    · obtain ⟨part, inParts, rfl⟩ := List.mem_map.mp found
      exact each part inParts point inPiece

/-- Of all characters only the null character keeps a text from standing in a path. -/
theorem isPlainText_ofString {characters : String} (absent : '\x00' ∉ characters.toList) :
    IsPlainText characters := by
  refine List.forall_mem_map.mpr fun character member => ?_
  have other : character ≠ '\x00' := ne_of_mem_of_not_mem member absent
  simp [isPlainPoint, Point.isSurrogate, other]

/-- The null character and surrogates that stand for no byte are all that keeps a path from being
followed. -/
theorem fault?_eq_none_iff {path : Path} : path.fault? = none ↔ IsPlainText path.text := by
  have points : path.fault? = none ↔
      (∀ point ∈ path.text.toList, (point.isSurrogate && !point.isEscapedByte) = false) ∧
        .scalar '\x00' ∉ path.text.toList := by
    rw [← Text.Utf8.faultAt?_eq_none_iff, ← Text.Utf8.nameFault?, Path.fault?]
    cases Text.Utf8.nameFault? path.text with
    | some fault => simp
    | none => simp
  rw [points, ← List.forall_mem_ne', ← forall₂_and]
  refine forall₂_congr fun point _ => ?_
  simp only [isPlainPoint, Bool.and_eq_true, Bool.or_eq_true, bne_iff_ne, Bool.not_eq_true',
    Bool.and_eq_false_iff, Bool.not_eq_false', and_comm]

/-- A path is plain if its written form is. -/
theorem Path.isPlain_iff {path : Path} : path.IsPlain ↔ IsPlainText path.text := by
  have parts : path.IsPlain ↔ IsPlainText (path.root ++ Text.intercalate "/" path.parts) := by
    rw [isPlainText_append_iff, isPlainText_intercalate_iff]
    exact ⟨fun plain => ⟨plain.root, plain.parts⟩, fun plain => ⟨plain.1, plain.2⟩⟩
  rw [parts, text]
  split
  next empty =>
    rw [Bool.and_eq_true, Text.isEmpty_iff, List.isEmpty_iff] at empty
    rw [empty.1, empty.2]
    exact iff_of_true (by decide) (by decide)
  next => rfl

namespace Path.IsPlain

variable {path other : Path}

theorem parent (plain : path.IsPlain) : path.parent.IsPlain :=
  ⟨plain.root, fun part member => plain.parts part (List.dropLast_subset _ member)⟩

theorem child (plain : path.IsPlain) {part : Text} (plainPart : IsPlainText part) :
    (path.child part).IsPlain := by
  refine ⟨plain.root, ?_⟩
  rw [Path.child, List.forall_mem_append, List.forall_mem_singleton]
  exact ⟨plain.parts, plainPart⟩

theorem join (plain : path.IsPlain) (plainOther : other.IsPlain) : (path.join other).IsPlain := by
  rw [Path.join]
  split
  next => exact plainOther
  next => exact ⟨plain.root, List.forall_mem_append.mpr ⟨plain.parts, plainOther.parts⟩⟩

theorem name (plain : path.IsPlain) : IsPlainText path.name := by
  rw [Path.name]
  cases last : path.parts.getLast? with
  | none => exact List.forall_mem_nil _
  | some part => exact plain.parts part (List.mem_of_getLast? last)

/-- Following double dots leads to no new parts. -/
theorem follow {parts : List Text} (plain : ∀ part ∈ parts, IsPlainText part) {part : Text}
    (plainPart : IsPlainText part) : ∀ other ∈ Path.follow parts part, IsPlainText other := by
  rw [Path.follow]
  split
  next => exact fun other member => plain other (List.dropLast_subset _ member)
  next => exact List.forall_mem_append.mpr ⟨plain, List.forall_mem_singleton.mpr plainPart⟩

theorem foldl_follow {parts start : List Text} (plain : ∀ part ∈ parts, IsPlainText part)
    (plainStart : ∀ part ∈ start, IsPlainText part) :
    ∀ part ∈ parts.foldl Path.follow start, IsPlainText part := by
  induction parts generalizing start with
  | nil => exact plainStart
  | cons part rest ih =>
      rw [List.forall_mem_cons] at plain
      exact ih plain.2 (follow plainStart plain.1)

theorem resolve (plain : path.IsPlain) {directory : List Text}
    (plainDirectory : ∀ part ∈ directory, IsPlainText part) :
    (path.resolve directory).IsPlain := by
  have root : IsPlainText "/" := by decide
  refine ⟨root, foldl_follow plain.parts ?_⟩
  split
  next => exact List.forall_mem_nil _
  next => exact plainDirectory

theorem ofText {text : Text} (plain : IsPlainText text) : (Path.ofText text).IsPlain := by
  constructor
  · rw [Path.ofText]
    dsimp only
    split
    next => decide
    next => split <;> decide
  · intro part member
    obtain ⟨piece, inPieces, rfl⟩ := List.mem_map.mp (List.mem_of_mem_filter member)
    intro point inPiece
    apply plain
    rw [← Text.intercalate_splitOn '/' text.toList]
    exact Text.subset_intercalate inPieces inPiece

end Path.IsPlain

end EntityForge.Files
