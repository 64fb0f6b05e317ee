import EntityForge.Files.Path
import EntityForge.Text.Quoted
import EntityForge.Text.Utf8

/-!
# Devices

Files are written by calls to a device: to make a directory, to open a file and fill it, to move one
and to remove it.  What the calls do, and when they fail, is up to the device; what is done with
them is the same on all devices.  Files are written with the directories that they need.  An atomic
write goes through a temporary file beside the target, which is then moved into its place, so that
no half-written file is seen where moving is one call.
-/

namespace EntityForge.Files

/-- Why an operation on a path failed. -/
inductive Cause where
  | missing
  | alreadyExists
  | notADirectory
  | isADirectory
  | noSpace
  | nameTooLong
  deriving BEq, DecidableEq, Repr

/-- The number of a cause. -/
def Cause.number : Cause → Nat
  | .missing => 2
  | .alreadyExists => 17
  | .notADirectory => 20
  | .isADirectory => 21
  | .noSpace => 28
  | .nameTooLong => 36

/-- The wording of a cause. -/
def Cause.text : Cause → Text
  | .missing => "No such file or directory"
  | .alreadyExists => "File exists"
  | .notADirectory => "Not a directory"
  | .isADirectory => "Is a directory"
  | .noSpace => "No space left on device"
  | .nameTooLong => "File name too long"

/-- A failed operation. -/
inductive Failure where
  | system (cause : Cause) (path : Path)
  /-- A file is moved into a directory that has one of its name. -/
  | destinationTaken (path : Path)
  /-- No path holds the null character. -/
  | nullCharacter
  /-- A path, or a text that is to be written, has no encoding. -/
  | unencodable (fault : Text.Utf8.EncodingFault)
  deriving BEq, DecidableEq, Repr

/-- The wording of a failure. -/
def Failure.message : Failure → Text
  | .system cause path => s!"[Errno {cause.number}] " ++ cause.text ++ ": " ++ Text.quoted path.text
  | .destinationTaken path => "Destination path '" ++ path.text ++ "' already exists"
  | .nullCharacter => "embedded null byte"
  | .unencodable fault => fault.message

/-- Whether a failure is one of the file system, and not of the path or the text itself. -/
def Failure.isSystemFailure : Failure → Bool
  | .nullCharacter | .unencodable _ => false
  | _ => true

/-- What keeps a path from being one of the file system, if anything. -/
def Path.fault? (path : Path) : Option Failure :=
  match Text.Utf8.nameFault? path.text with
  | some fault => some (.unencodable fault)
  | none => if path.text.toList.contains '\x00' then some .nullCharacter else none

/-- What a batch has written. -/
structure Written where
  files : Nat := 0
  bytes : Nat := 0
  deriving BEq, DecidableEq, Repr

/-- The calls by which files are written, on the states of a device. -/
structure Device (σ : Type) where
  /-- Makes a directory in one that is there. -/
  makeDirectory : Path → EStateM Failure σ Unit
  isDirectory : σ → Path → Bool
  /-- Whether a path leads to anything. -/
  leads : σ → Path → Bool
  /-- Makes an empty file beside a target, under a new name. -/
  makeTemporary : Path → EStateM Failure σ Path
  /-- Opens a file, which is made or emptied, and puts bytes into it. -/
  putBytes : Path → List UInt8 → EStateM Failure σ Unit
  readBytes : σ → Path → Except Failure (List UInt8)
  /-- Moves a file to a path in one step. -/
  rename : Path → Path → EStateM Failure σ Unit
  remove : Path → EStateM Failure σ Unit

namespace Device

variable {σ : Type} (device : Device σ)

/-- Accepts a failure if there is a directory all the same. -/
def unlessDirectory (path : Path) (failure : Failure) : EStateM Failure σ Unit := do
  unless device.isDirectory (← get) path do
    throw failure

/-- Makes a directory unless it is there. -/
def ensureLast (path : Path) : EStateM Failure σ Unit :=
  tryCatch (device.makeDirectory path) fun failure =>
    match failure with
    | .system .missing _ => throw failure
    | _ => device.unlessDirectory path failure

/-- Makes a directory and those above it unless they are there. -/
def ensureDirectory (path : Path) : EStateM Failure σ Unit :=
  tryCatch (device.makeDirectory path) fun failure =>
    match failure with
    | .system .missing _ =>
        if _empty : path.parts = [] then throw failure
        else do
          ensureDirectory path.parent
          device.ensureLast path
    | _ => device.unlessDirectory path failure
termination_by path.parts.length
decreasing_by exact Path.length_parent_lt _empty

/-- Moves a file to a path, by a copy of it if that cannot be done in one step. -/
def moveTo (source goal : Path) : EStateM Failure σ Unit :=
  tryCatch (device.rename source goal) fun failure =>
    if failure.isSystemFailure then do
      match device.readBytes (← get) source with
      | .ok bytes =>
          device.putBytes goal bytes
          device.remove source
      | .error unread => throw unread
    else throw failure

/-- Moves a file to a path, or into the directory that is there. -/
def moveFile (source target : Path) : EStateM Failure σ Unit := do
  if device.isDirectory (← get) target then
    let goal := target.child source.name
    if device.leads (← get) goal then
      throw (.destinationTaken goal)
    device.moveTo source goal
  else
    device.moveTo source target

/-- Removes what a path leads to, if it leads anywhere. -/
def discard (path : Path) : EStateM Failure σ Unit := do
  if device.leads (← get) path then
    device.remove path

/-- Puts bytes into a temporary file and moves that to a path.  A file that cannot be filled or
moved is removed again. -/
def replaceFile (path : Path) (bytes : List UInt8) : EStateM Failure σ Unit := do
  let temporary ← device.makeTemporary path
  tryCatch (do
      device.putBytes temporary bytes
      device.moveFile temporary path)
    fun failure => do
      device.discard temporary
      throw failure

/-- The bytes of a text that is to be written. -/
def bytesOf (text : Text) : EStateM Failure σ (List UInt8) :=
  match Text.Utf8.encoded text with
  | .ok bytes => pure bytes
  | .error fault => throw (.unencodable fault)

/-- Writes a text and returns the number of its bytes. -/
def writeFile (path : Path) (text : Text) (atomic : Bool) : EStateM Failure σ Nat := do
  device.ensureDirectory path.parent
  let bytes ← bytesOf text
  if atomic then device.replaceFile path bytes else device.putBytes path bytes
  return bytes.length

/-- Writes texts under paths seen from a directory, one after the other up to the first failure. -/
def writeBatch (base : Path) (atomic : Bool) :
    List (Text × Text) → EStateM Failure σ Written
  | [] => return {}
  | (path, text) :: rest => do
      let bytes ← device.writeFile (base.join (.ofText path)) text atomic
      let more ← writeBatch base atomic rest
      return ⟨more.files + 1, more.bytes + bytes⟩

end Device

end EntityForge.Files
