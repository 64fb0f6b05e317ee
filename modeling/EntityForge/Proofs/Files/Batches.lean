import EntityForge.Files.Device
import EntityForge.Proofs.Text.Utf8
import Mathlib.Algebra.GroupWithZero.Nat

/-!
# Batches on a device

A batch is written file by file, on whichever device: it succeeds if all its files are written, and
fails with the first one that fails, once all before it are written.
-/

namespace EntityForge.Files

/-! ## Steps one after the other -/

section

variable {σ α β : Type} {state after : σ}

theorem bind_eq_ok_iff {action : EStateM Failure σ α} {next : α → EStateM Failure σ β} {value : β} :
    (action >>= next) state = .ok value after ↔
      ∃ found middle, action state = .ok found middle ∧ next found middle = .ok value after := by
  simp only [bind, EStateM.bind]
  cases action state with
  | ok found middle => simp
  | error failure middle => simp

theorem bind_eq_error_iff {action : EStateM Failure σ α} {next : α → EStateM Failure σ β}
    {failure : Failure} :
    (action >>= next) state = .error failure after ↔
      action state = .error failure after ∨
        ∃ found middle, action state = .ok found middle ∧
          next found middle = .error failure after := by
  simp only [bind, EStateM.bind]
  cases action state with
  | ok found middle => simp
  | error failure middle => simp

theorem get_bind (next : σ → EStateM Failure σ α) (state : σ) :
    (get >>= next) state = next state state :=
  rfl

theorem tryCatch_apply (action : EStateM Failure σ α) (handler : Failure → EStateM Failure σ α)
    (state : σ) :
    MonadExcept.tryCatch action handler state =
      match action state with
      | .ok value after => .ok value after
      | .error failure after => handler failure after := by
  simp only [MonadExcept.tryCatch, tryCatchThe, MonadExceptOf.tryCatch, EStateM.tryCatch]
  cases action state with
  | ok value after => rfl
  | error failure after => rfl

end

/-! ## One file after the other -/

/-- The path under which a file of a batch is written. -/
def target (base : Path) (file : Text × Text) : Path :=
  base.join (.ofText file.1)

namespace Device

variable {σ : Type} {device : Device σ} {base : Path} {atomic : Bool} {file : Text × Text}
  {files : List (Text × Text)} {state after : σ} {failure : Failure} {written : Written}

theorem writeBatch_cons_eq_ok_iff :
    device.writeBatch base atomic (file :: files) state = .ok written after ↔
      ∃ count middle more,
        device.writeFile (target base file) file.2 atomic state = .ok count middle ∧
        device.writeBatch base atomic files middle = .ok more after ∧
        written = ⟨more.files + 1, more.bytes + count⟩ := by
  rw [writeBatch, bind_eq_ok_iff]
  refine exists₂_congr fun count middle => ?_
  rw [bind_eq_ok_iff]
  constructor
  · rintro ⟨first, more, _, others, returned⟩
    cases returned
    exact ⟨more, first, others, rfl⟩
  · rintro ⟨more, first, others, rfl⟩
    exact ⟨first, more, after, others, rfl⟩

/-- A text has its bytes if it can be encoded, and nothing is changed for them. -/
theorem bytesOf_eq_ok_iff {text : Text} {bytes : List UInt8} :
    bytesOf text state = .ok bytes after ↔
      Text.Utf8.encodingFault? text = none ∧ bytes = Text.Utf8.encode text ∧ after = state := by
  rw [bytesOf, Text.Utf8.encoded]
  cases Text.Utf8.encodingFault? text with
  | some fault =>
      refine iff_of_false (fun run => ?_) (by simp)
      cases run
  | none => simp [pure, EStateM.pure, eq_comm]

end Device

end EntityForge.Files
