import EntityForge.Proofs.Files.Drafts
import EntityForge.Proofs.Files.Trees

/-!
# Batches that fail

A batch stops at the first file that cannot be written.  What the earlier files left behind stays.
The failed one adds directories; written directly, the file to which its path leads may also be left
empty or half written, while an atomic write leaves nothing behind on a device on which temporary
files can be moved and removed.  So no file is new or changed but one to which an earlier path of
the batch leads, or the path of the failed file itself.
-/

namespace EntityForge.Files

variable {σ π ν : Type} {device : Device σ} {view : View σ π ν}

namespace View

end View

namespace Device

variable {before state after : σ} {temporary goal path : Path} {place : π} {identity : ν}
  {failure other : Failure}

/-! ## Moving a temporary file -/

section

variable {atomic : Bool} {text : Text}

end

/-! ## Batches -/

/-- Whether a file of a batch is written in the course of it, and which state it leaves. -/
def Writes (device : Device σ) (base : Path) (atomic : Bool) (files : List (Text × Text))
    (before : σ) (file : Text × Text) (after : σ) : Prop :=
  ∃ front back written state count, files = front ++ file :: back ∧
    device.writeBatch base atomic front before = .ok written state ∧
    device.writeFile (target base file) file.2 atomic state = .ok count after

variable {base : Path} {atomic : Bool} {files : List (Text × Text)} {written : Written}

end Device

end EntityForge.Files
