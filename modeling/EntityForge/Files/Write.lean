import EntityForge.Files.Tree

/-!
# Writing to a file tree

The calls of a device on a file tree.  A tree has room for whatever its paths and names can hold, so
that a file is either filled as a whole or not touched at all, and moving one is a single step.
-/

namespace EntityForge.Files

/-- The name of a temporary file for a target. -/
def temporaryName (name : Text) (attempt : Nat) : Text :=
  let digits := Nat.toDigits 10 attempt
  let padded := List.replicate (8 - digits.length) '0' ++ digits
  "." ++ name ++ "." ++ String.ofList padded ++ ".tmp"

/-- A path for a temporary file beside its target, where nothing stands yet. -/
def Tree.temporary (tree : Tree) (target : Path) : Path :=
  let directory := target.parent.resolve tree.workingDirectory
  let attempts :=
    List.range' (tree.firstAttempt tree.nodes target) (tree.nodes.length + 1)
  let candidates := attempts.map fun attempt =>
    directory.child (temporaryName target.name attempt)
  (candidates.find? fun path => (tree.at? path.parts).isNone).getD directory

/-- An action on a file tree. -/
abbrev Action := EStateM Failure Tree

namespace Action

/-- The place that a path denotes. -/
def locate (path : Path) : Action (List Text) := do
  match (← get).locate path with
  | .ok place => return place
  | .error failure => throw failure

/-- Makes a directory in one that is there. -/
def makeDirectory (path : Path) : Action Unit := do
  let place ← locate path
  if ((← get).at? place).isSome then
    throw (.system .alreadyExists path)
  modify (·.put place .directory)

/-- Makes an empty file beside a target. -/
def makeTemporary (path : Path) : Action Path := do
  let temporary := (← get).temporary path
  let place ← locate temporary
  if ((← get).at? place).isSome then
    throw (.system .alreadyExists temporary)
  modify (·.put place (.file []))
  return temporary

/-- Puts bytes into a file, which is made if it is not there. -/
def putBytes (path : Path) (bytes : List UInt8) : Action Unit := do
  let place ← locate path
  if (← get).at? place == some .directory then
    throw (.system .isADirectory path)
  modify (·.put place (.file bytes))

/-- Moves what stands at a path to another one, where there may be a file but no directory. -/
def rename (source goal : Path) : Action Unit := do
  let origin ← locate source
  let place ← locate goal
  let tree ← get
  if tree.at? place == some .directory then
    throw (.system .isADirectory goal)
  match tree.at? origin with
  | some content => set ((tree.remove origin).put place content)
  | none => throw (.system .missing source)

/-- Removes what stands at a path. -/
def remove (path : Path) : Action Unit := do
  let place ← locate path
  modify (·.remove place)

end Action

/-- The bytes of a file. -/
def Tree.readBytes (tree : Tree) (path : Path) : Except Failure (List UInt8) := do
  match tree.at? (← tree.locate path) with
  | some (.file bytes) => return bytes
  | some .directory => throw (.system .isADirectory path)
  | none => throw (.system .missing path)

/-- Whether a path leads to anything. -/
def Tree.leads (tree : Tree) (path : Path) : Bool :=
  match tree.find path with
  | .ok found => found.isSome
  | .error _ => false

/-- A file tree as a device. -/
def Tree.device : Device Tree where
  makeDirectory := Action.makeDirectory
  isDirectory := Tree.isDirectory
  leads := Tree.leads
  makeTemporary := Action.makeTemporary
  putBytes := Action.putBytes
  readBytes := Tree.readBytes
  rename := Action.rename
  remove := Action.remove

namespace Action

/-- Accepts a failure if there is a directory all the same. -/
def unlessDirectory : Path → Failure → Action Unit := Tree.device.unlessDirectory

/-- Makes a directory unless it is there. -/
def ensureLast : Path → Action Unit := Tree.device.ensureLast

/-- Makes a directory and those above it unless they are there. -/
def ensureDirectory : Path → Action Unit := Tree.device.ensureDirectory

/-- Moves a file to a path, or into the directory that is there. -/
def moveFile : Path → Path → Action Unit := Tree.device.moveFile

/-- Puts bytes into a temporary file and moves that to a path. -/
def replaceFile : Path → List UInt8 → Action Unit := Tree.device.replaceFile

/-- Writes a text and returns the number of its bytes. -/
def writeFile : Path → Text → (atomic : Bool) → Action Nat := Tree.device.writeFile

/-- Writes texts under paths seen from a directory, one after the other up to the first failure. -/
def writeBatch : Path → (atomic : Bool) → List (Text × Text) → Action Written :=
  Tree.device.writeBatch

end Action

end EntityForge.Files
