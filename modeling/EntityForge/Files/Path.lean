import EntityForge.Text.Split

/-!
# Paths

Paths as their parts.  Empty parts and single dots are dropped on reading, so that equal paths are
written alike; double dots stay, since what they mean is decided by the file tree.
-/

namespace EntityForge.Files

/-- A path. -/
structure Path where
  /-- What the path starts with: nothing, one slash, or exactly two. -/
  root : Text := ""
  parts : List Text := []
  deriving BEq, DecidableEq, Repr

/-- Whether a part of a written path counts. -/
def isPart (part : Text) : Bool :=
  part != "" && part != "."

namespace Path

/-- Reads a path. -/
def ofText (text : Text) : Path :=
  let slashes := (text.toList.takeWhile (· == .scalar '/')).length
  let root := if slashes = 0 then "" else if slashes = 2 then "//" else "/"
  ⟨root, (Text.pieces '/' text).filter isPart⟩

/-- The written form of a path.  The empty relative path is a single dot. -/
def text (path : Path) : Text :=
  if path.root.isEmpty && path.parts.isEmpty then "."
  else path.root ++ Text.intercalate "/" path.parts

/-- Whether a path starts at the root of the file tree. -/
def isAbsolute (path : Path) : Bool :=
  !path.root.isEmpty

/-- The last part. -/
def name (path : Path) : Text :=
  path.parts.getLast?.getD ""

/-- The path without its last part. -/
def parent (path : Path) : Path :=
  { path with parts := path.parts.dropLast }

/-- The end of the last part from its last dot on.  A dot at either end of the part begins no
suffix. -/
def suffix (path : Path) : Text :=
  let (before, after) := Text.splitLast '.' path.name.toList
  if before.isEmpty || after.isEmpty then "" else Text.ofList ('.' :: after)

/-- A path seen from another one.  An absolute path stays as it is. -/
def join (base path : Path) : Path :=
  if path.isAbsolute then path else { base with parts := base.parts ++ path.parts }

/-- One more part. -/
def child (path : Path) (part : Text) : Path :=
  { path with parts := path.parts ++ [part] }

/-- The parts after one more is followed, where double dots lead back. -/
def follow (parts : List Text) (part : Text) : List Text :=
  if part = ".." then parts.dropLast else parts ++ [part]

/-- The absolute path without double dots, seen from a directory. -/
def resolve (directory : List Text) (path : Path) : Path :=
  let start := if path.isAbsolute then [] else directory
  ⟨"/", path.parts.foldl follow start⟩

theorem length_parent_lt {path : Path} (nonempty : path.parts ≠ []) :
    path.parent.parts.length < path.parts.length := by
  have positive := List.length_pos_iff.mpr nonempty
  simp only [parent, List.length_dropLast]
  omega

end Path

end EntityForge.Files
