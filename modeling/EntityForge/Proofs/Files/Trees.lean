import EntityForge.Proofs.Files.Putting
import EntityForge.Proofs.Files.Views

/-!
# File trees as devices

A file tree respects what is asked of a device: each of its calls changes one place at most.  In a
tree no file has two places, so that a place identifies its file; still, several paths lead to one
place, as double dots take a path back.  A tree without room for another byte respects it, too,
although every file that is opened there is emptied.
-/

namespace EntityForge.Files

/-- What a tree shows at a place. -/
def Content.entry (place : List Text) : Content → Entry (List Text)
  | .file bytes => .file place bytes
  | .directory => .directory

/-- What is to be seen of a file tree. -/
def Tree.view : View Tree (List Text) (List Text) where
  at? tree place := (tree.at? place).map (Content.entry place)
  file? tree path :=
    match tree.locate path with
    | .ok place =>
        match tree.at? place with
        | some (.file _) => some place
        | _ => none
    | .error _ => none

namespace Tree

variable {tree after : Tree} {path goal : Path} {place identity : List Text} {bytes : List UInt8}

theorem names_iff : view.Names tree place identity ↔
    place = identity ∧ ∃ bytes, tree.at? place = some (.file bytes) := by
  rw [View.Names]
  change (∃ bytes, (tree.at? place).map (Content.entry place) = some (.file identity bytes)) ↔ _
  cases tree.at? place with
  | none => simp
  | some content =>
      cases content with
      | file bytes => simp [Content.entry]
      | directory => simp [Content.entry]

theorem file?_eq_some_iff : view.file? tree path = some place ↔
    tree.locate path = .ok place ∧ ∃ bytes, tree.at? place = some (.file bytes) := by
  change (match tree.locate path with
    | .ok place =>
        match tree.at? place with
        | some (.file _) => some place
        | _ => none
    | .error _ => none) = some place ↔ _
  cases tree.locate path with
  | error failure => simp
  | ok found =>
      dsimp only
      cases stands : tree.at? found with
      | none =>
          refine iff_of_false nofun ?_
          rintro ⟨⟨⟩, bytes, same⟩
          cases stands.symm.trans same
      | some content =>
          cases content with
          | directory =>
              refine iff_of_false nofun ?_
              rintro ⟨⟨⟩, bytes, same⟩
              cases stands.symm.trans same
          | file bytes =>
              simp only [Option.some.injEq, Except.ok.injEq]
              refine ⟨?_, And.left⟩
              rintro rfl
              exact ⟨rfl, bytes, stands⟩

theorem view_at?_eq (same : after.at? place = tree.at? place) :
    view.at? after place = view.at? tree place :=
  congrArg (Option.map (Content.entry place)) same

/-- Whether nothing is changed between two trees but the file to which a path leads, or a new one
there. -/
def Opens (before after : Tree) (path : Path) : Prop :=
  after = before ∨
    ∃ place bytes, before.Takes path place ∧ after = before.put place (.file bytes)

namespace Opens

theorem eq_or_names (opens : tree.Opens after path) (place : List Text) :
    view.at? after place = view.at? tree place ∨
      tree.Takes path place ∧ view.Names after place place := by
  rcases opens with rfl | ⟨opened, bytes, takes, rfl⟩
  · exact .inl rfl
  by_cases same : place = opened
  · subst same
    exact .inr ⟨takes, names_iff.mpr ⟨rfl, bytes, at?_put_self takes.free⟩⟩
  · exact .inl (view_at?_eq (at?_put_of_ne takes.free same))

theorem leads {other : Path} (opens : tree.Opens after path)
    (found : view.file? tree other = some identity) : view.file? after other = some identity := by
  rcases opens with rfl | ⟨opened, bytes, takes, rfl⟩
  · exact found
  obtain ⟨located, content, stands⟩ := file?_eq_some_iff.mp found
  refine file?_eq_some_iff.mpr ⟨(locate_put_iff takes.free).mpr located, ?_⟩
  rw [at?_put (ne_nil_of_at?_ne_directory takes.free)]
  split
  next => exact ⟨bytes, rfl⟩
  next => exact ⟨content, stands⟩

theorem old (opens : tree.Opens after path) (found : view.file? tree path = some identity)
    (place : List Text) :
    view.at? after place = view.at? tree place ∨
      view.Names tree place identity ∧ view.Names after place identity := by
  refine (opens.eq_or_names place).imp_right ?_
  rintro ⟨takes, named⟩
  obtain ⟨located, stands⟩ := file?_eq_some_iff.mp found
  cases takes.located.symm.trans located
  exact ⟨names_iff.mpr ⟨rfl, stands⟩, named⟩

theorem new (opens : tree.Opens after path) (nowhere : view.file? tree path = none)
    (place : List Text) :
    view.at? after place = view.at? tree place ∨
      view.at? tree place = none ∧ ∃ identity, view.Names after place identity ∧
        view.file? after path = some identity ∧ ∀ other, ¬view.Names tree other identity := by
  refine (opens.eq_or_names place).imp_right ?_
  rintro ⟨takes, named⟩
  have absent : tree.at? place = none := by
    cases stands : tree.at? place with
    | none => rfl
    | some content =>
        cases content with
        | directory => exact absurd stands takes.free
        | file bytes =>
            have found := file?_eq_some_iff.mpr ⟨takes.located, bytes, stands⟩
            cases nowhere.symm.trans found
  have located : after.locate path = .ok place := by
    rcases opens with rfl | ⟨opened, bytes, takesOpened, rfl⟩
    · exact takes.located
    · exact (locate_put_iff takesOpened.free).mpr takes.located
  refine ⟨congrArg (Option.map _) absent, place, named, ?_, ?_⟩
  · exact file?_eq_some_iff.mpr ⟨located, (names_iff.mp named).2⟩
  · intro other namedBefore
    obtain ⟨rfl, bytes, stands⟩ := names_iff.mp namedBefore
    cases absent.symm.trans stands

end Opens

/-! ## The calls -/

end Tree

end EntityForge.Files
