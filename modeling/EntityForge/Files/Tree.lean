import EntityForge.Files.Device

/-!
# File trees

The files and directories that a run sees, as a value.  A place in the tree is the list of names
that lead to it from the root; a path denotes a place only if all that it passes are directories.
-/

namespace EntityForge.Files

/-- What stands at a place. -/
inductive Content where
  | file (bytes : List UInt8)
  | directory
  deriving BEq, DecidableEq, Repr

/-- A file tree with the directory from which relative paths are seen. -/
structure Tree where
  nodes : List (List Text × Content) := []
  workingDirectory : List Text := []
  /-- The number of the first name that is tried for a temporary file, which may depend on all that
  stands in the tree and on the target. -/
  firstAttempt : List (List Text × Content) → Path → Nat := fun nodes _ => nodes.length

/-- The greatest length of a name, in bytes. -/
def nameLimit : Nat := 255

/-- The length from which on a path is too long, in bytes. -/
def pathLimit : Nat := 4096

namespace Tree

/-- What stands at a place.  The root is a directory. -/
def at? (tree : Tree) (place : List Text) : Option Content :=
  if place.isEmpty then some .directory else tree.nodes.lookup place

/-- The tree with something put at a place. -/
def put (tree : Tree) (place : List Text) (content : Content) : Tree :=
  { tree with nodes := (place, content) :: tree.nodes.filter (·.1 != place) }

/-- The tree without what stands at a place. -/
def remove (tree : Tree) (place : List Text) : Tree :=
  { tree with nodes := tree.nodes.filter (·.1 != place) }

/-- The place that parts lead to from another place. -/
def walk (tree : Tree) (place : List Text) : List Text → Except Cause (List Text)
  | [] => .ok place
  | part :: rest =>
      match tree.at? place with
      | none => .error .missing
      | some (.file _) => .error .notADirectory
      | some .directory =>
          if part ≠ ".." ∧ nameLimit < Text.Utf8.nameSize part then .error .nameTooLong
          else walk tree (Path.follow place part) rest

/-- The place that a path denotes, where there need not be anything. -/
def locate (tree : Tree) (path : Path) : Except Failure (List Text) :=
  match path.fault? with
  | some failure => .error failure
  | none =>
      if pathLimit ≤ Text.Utf8.nameSize path.text then
        .error (.system .nameTooLong path)
      else
        let start := if path.isAbsolute then [] else tree.workingDirectory
        (tree.walk start path.parts).mapError (.system · path)

/-- What a path leads to, if anything.  That a path leads nowhere is no failure. -/
def find (tree : Tree) (path : Path) : Except Failure (Option Content) :=
  match tree.locate path with
  | .ok place => .ok (tree.at? place)
  | .error (.system .nameTooLong path) => .error (.system .nameTooLong path)
  | .error _ => .ok none

/-- Whether a path leads to a directory. -/
def isDirectory (tree : Tree) (path : Path) : Bool :=
  match tree.find path with
  | .ok (some .directory) => true
  | _ => false

/-- The absolute path without double dots. -/
def resolve (tree : Tree) (path : Path) : Except Failure Path :=
  match path.fault? with
  | some failure => .error failure
  | none => .ok (path.resolve tree.workingDirectory)

end Tree

end EntityForge.Files
