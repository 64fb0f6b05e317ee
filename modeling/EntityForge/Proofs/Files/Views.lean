import EntityForge.Proofs.Files.Batches

/-!
# What a write may change

The states of a device are seen through a view: what stands at each place, and to which file a path
leads once all links are followed.  A file may stand at several places, and several paths may lead
to it.  Of its calls a device is asked for no more than that each changes only what it is about,
whether it fails or not: a file that is opened may be left empty or half written, and every call may
fail.  From that it follows what is changed by writing a file.
-/

namespace EntityForge.Files

/-- What stands at a place.  A file is told from the others by its identity. -/
inductive Entry (ν : Type) where
  | file (identity : ν) (bytes : List UInt8)
  | directory
  /-- A link, or anything else that holds no bytes of its own. -/
  | other

/-- What is to be seen of the states `σ` of a device with places `π` and files `ν`. -/
structure View (σ π ν : Type) where
  at? : σ → π → Option (Entry ν)
  /-- The file to which a path leads. -/
  file? : σ → Path → Option ν

/-- The state that a run leaves, whether it fails or not. -/
def stateAfter {σ α : Type} : EStateM.Result Failure σ α → σ
  | .ok _ after => after
  | .error _ after => after

namespace View

variable {σ π ν : Type} (view : View σ π ν)

/-- Whether a place is as it was, or holds a directory where nothing had been. -/
def Keeps (before after : σ) (place : π) : Prop :=
  view.at? after place = view.at? before place ∨
    view.at? before place = none ∧ view.at? after place = some .directory

/-- Whether the file at a place is the one to which a path leads. -/
def Holds (state : σ) (path : Path) (place : π) : Prop :=
  ∃ identity bytes, view.at? state place = some (.file identity bytes) ∧
    view.file? state path = some identity

/-- Whether two states look alike. -/
structure Alike (before after : σ) : Prop where
  at? : view.at? after = view.at? before
  file? : view.file? after = view.file? before

/-- Whether a place is one of a file. -/
def Names (state : σ) (place : π) (identity : ν) : Prop :=
  ∃ bytes, view.at? state place = some (.file identity bytes)

variable {view} {before middle after : σ} {place : π}

theorem Alike.of_eq (same : after = before) : view.Alike before after := by
  rw [same]
  exact ⟨rfl, rfl⟩

theorem Keeps.of_eq (same : view.at? after place = view.at? before place) :
    view.Keeps before after place :=
  .inl same

theorem Keeps.trans (first : view.Keeps before middle place)
    (second : view.Keeps middle after place) : view.Keeps before after place := by
  rcases second with same | ⟨absent, made⟩
  · rcases first with sameBefore | ⟨absent, made⟩
    · exact .inl (same.trans sameBefore)
    · exact .inr ⟨absent, same.trans made⟩
  · rcases first with sameBefore | ⟨_, madeBefore⟩
    · exact .inr ⟨sameBefore.symm.trans absent, made⟩
    · rw [madeBefore] at absent
      cases absent

end View

namespace Device

/-- Whether each call of a device changes no more than it is about, also if it fails. -/
structure Respects {σ π ν : Type} (device : Device σ) (view : View σ π ν) : Prop where
  makeDirectory (path : Path) (state : σ) (place : π) :
    view.Keeps state (stateAfter (device.makeDirectory path state)) place
  leads {path : Path} {state : σ} {identity : ν} :
    view.file? state path = some identity → device.leads state path = true
  /-- A temporary file is new, and so is its place. -/
  makeTemporary {path temporary : Path} {state after : σ} :
    device.makeTemporary path state = .ok temporary after →
    ∃ place identity, view.at? state place = none ∧
      (∀ other, ¬view.Names state other identity) ∧
      view.Names after place identity ∧ view.file? after temporary = some identity ∧
      ∀ other, other ≠ place → view.at? after other = view.at? state other
  makeTemporary_failed {path : Path} {state after : σ} {failure : Failure} :
    device.makeTemporary path state = .error failure after → view.Alike state after
  /-- Only the file to which the path leads is written, if it leads to one. -/
  putBytes_old {path : Path} (bytes : List UInt8) {state : σ} {identity : ν} :
    view.file? state path = some identity → ∀ place,
      view.at? (stateAfter (device.putBytes path bytes state)) place = view.at? state place ∨
        view.Names state place identity ∧
          view.Names (stateAfter (device.putBytes path bytes state)) place identity
  /-- Else no file is written but a new one, at a new place. -/
  putBytes_new {path : Path} (bytes : List UInt8) {state : σ} :
    view.file? state path = none → ∀ place,
      view.at? (stateAfter (device.putBytes path bytes state)) place = view.at? state place ∨
        view.at? state place = none ∧
          ∃ identity, view.Names (stateAfter (device.putBytes path bytes state)) place identity ∧
            view.file? (stateAfter (device.putBytes path bytes state)) path = some identity ∧
            ∀ other, ¬view.Names state other identity
  /-- A path that leads to a file still leads to it. -/
  putBytes_leads (path : Path) (bytes : List UInt8) {other : Path} {state : σ} {identity : ν} :
    view.file? state other = some identity →
      view.file? (stateAfter (device.putBytes path bytes state)) other = some identity
  /-- The file is given up at its places and stands where the path leads. -/
  rename {source goal : Path} {state after : σ} {identity : ν} :
    view.file? state source = some identity → device.rename source goal state = .ok () after →
    ∃ moved, view.file? after goal = some moved ∧ ∀ place,
      view.Names after place moved ∨
        view.Names state place identity ∧ view.at? after place = none ∨
        ¬view.Names state place identity ∧ view.at? after place = view.at? state place
  rename_failed {source goal : Path} {state after : σ} {failure : Failure} {identity : ν} :
    view.file? state source = some identity →
    device.rename source goal state = .error failure after → view.Alike state after
  /-- A place of the file is given up. -/
  remove {path : Path} {state after : σ} {identity : ν} :
    view.file? state path = some identity → device.remove path state = .ok () after →
    (∃ place, view.Names state place identity ∧ view.at? after place = none) ∧
      ∀ place, view.at? after place = view.at? state place ∨
        view.Names state place identity ∧ view.at? after place = none
  remove_leads {path other : Path} {state after : σ} {identity found : ν} :
    view.file? state path = some identity → device.remove path state = .ok () after →
    view.file? state other = some found → found ≠ identity → view.file? after other = some found
  remove_failed {path : Path} {state after : σ} {failure : Failure} {identity : ν} :
    view.file? state path = some identity → device.remove path state = .error failure after →
    view.Alike state after

variable {σ π ν : Type} {device : Device σ} {view : View σ π ν} {path : Path}

/-! ## Directories -/

/-- Whether a call makes no more than directories. -/
def Opens (view : View σ π ν) (action : EStateM Failure σ Unit) : Prop :=
  ∀ state place, view.Keeps state (stateAfter (action state)) place

namespace Opens

variable {action next : EStateM Failure σ Unit} {handler : Failure → EStateM Failure σ Unit}

theorem throw (failure : Failure) : Opens view (MonadExcept.throw failure) :=
  fun _ _ => .inl rfl

theorem tryCatch (first : Opens view action) (later : ∀ failure, Opens view (handler failure)) :
    Opens view (MonadExcept.tryCatch action handler) := by
  intro state place
  have here := first state place
  rw [tryCatch_apply]
  cases came : action state with
  | ok value after =>
      rw [came] at here
      exact here
  | error failure after =>
      rw [came] at here
      exact here.trans (later failure after place)

theorem bind (first : Opens view action) (later : Opens view next) :
    Opens view (action >>= fun _ => next) := by
  intro state place
  have here := first state place
  simp only [Bind.bind, EStateM.bind]
  cases came : action state with
  | ok value after =>
      rw [came] at here
      exact here.trans (later after place)
  | error failure after =>
      rw [came] at here
      exact here

end Opens

end Device

end EntityForge.Files
