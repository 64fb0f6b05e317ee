import EntityForge.Proofs.Files.Views

/-!
# Temporary files on their way

A temporary file stands at one place, where nothing was before, until it is moved or removed.  Only
where a device refuses to move it is a copy of it written to the place that it should have come to.
-/

namespace EntityForge.Files

variable {σ π ν : Type} {device : Device σ} {view : View σ π ν}

namespace View

/-- Whether a place holds a file other than a given one, to which a path leads. -/
def HoldsCopy (view : View σ π ν) (identity : ν) (state : σ) (goal : Path) (place : π) : Prop :=
  ∃ found, found ≠ identity ∧ view.Names state place found ∧ view.file? state goal = some found

theorem HoldsCopy.holds {identity : ν} {state : σ} {goal : Path} {place : π}
    (copy : view.HoldsCopy identity state goal place) : view.Holds state goal place := by
  obtain ⟨found, _, ⟨bytes, stands⟩, leads⟩ := copy
  exact ⟨found, bytes, stands, leads⟩

theorem eq_of_names {left right : ν} {state : σ} {place : π} (first : view.Names state place left)
    (second : view.Names state place right) : left = right := by
  obtain ⟨_, first⟩ := first
  obtain ⟨_, second⟩ := second
  cases first.symm.trans second
  rfl

theorem Names.of_eq {before after : σ} {place : π} {identity : ν}
    (named : view.Names before place identity)
    (same : view.at? after place = view.at? before place) :
    view.Names after place identity := by
  rw [Names, same]
  exact named

/-- Whether a temporary file stands at a place, where nothing was before, and nothing else is
changed but by a copy of it, if one was begun. -/
structure Drafts (view : View σ π ν) (before state : σ) (temporary : Path) (place : π)
    (identity : ν) (copied : Option Path) : Prop where
  absent : view.at? before place = none
  stands : view.Names state place identity
  leads : view.file? state temporary = some identity
  alone : ∀ other, view.Names state other identity → other = place
  elsewhere : ∀ other, other ≠ place →
    view.at? state other = view.at? before other ∨
      ∃ goal, copied = some goal ∧ view.HoldsCopy identity state goal other

namespace Drafts

variable {before state after : σ} {temporary goal : Path} {place : π} {identity : ν}
  {copied : Option Path}

theorem alike (drafts : view.Drafts before state temporary place identity copied)
    (alike : view.Alike state after) :
    view.Drafts before after temporary place identity copied := by
  refine ⟨drafts.absent, drafts.stands.of_eq (congrFun alike.at? place), ?_, ?_, ?_⟩
  · rw [alike.file?]
    exact drafts.leads
  · exact fun other named => drafts.alone other (named.of_eq (congrFun alike.at? other).symm)
  · intro other different
    simp only [HoldsCopy, Names, alike.at?, alike.file?]
    exact drafts.elsewhere other different

/-- Nothing else is changed as long as there is no copy. -/
theorem eq_of_ne (drafts : view.Drafts before state temporary place identity none) {other : π}
    (different : other ≠ place) : view.at? state other = view.at? before other := by
  refine (drafts.elsewhere other different).resolve_right ?_
  rintro ⟨_, ⟨⟩, _⟩

/-- What is written comes to the temporary file itself or to a copy of it. -/
theorem eq_or_copies_of_putBytes (respects : device.Respects view)
    (drafts : view.Drafts before state temporary place identity none) (goal : Path)
    (bytes : List UInt8) (other : π) :
    view.at? (stateAfter (device.putBytes goal bytes state)) other = view.at? state other ∨
      view.Names state other identity ∧
        view.Names (stateAfter (device.putBytes goal bytes state)) other identity ∨
      ¬view.Names state other identity ∧
        view.HoldsCopy identity (stateAfter (device.putBytes goal bytes state)) goal other := by
  cases leads : view.file? state goal with
  | none =>
      refine (respects.putBytes_new bytes leads other).imp_right fun new => .inr ?_
      obtain ⟨absent, found, named, reached, fresh⟩ := new
      refine ⟨?_, found, ?_, named, reached⟩
      · rintro ⟨_, stands⟩
        rw [absent] at stands
        cases stands
      · rintro rfl
        exact fresh place drafts.stands
  | some found =>
      refine (respects.putBytes_old bytes leads other).imp_right fun old => ?_
      by_cases same : found = identity
      · exact .inl (same ▸ old)
      · refine .inr ⟨fun named => same (eq_of_names old.1 named), found, same, old.2, ?_⟩
        exact respects.putBytes_leads goal bytes leads

/-- A copy changes the places of another file only. -/
theorem copy (respects : device.Respects view)
    (drafts : view.Drafts before state temporary place identity none) (goal : Path)
    (bytes : List UInt8) :
    view.Drafts before (stateAfter (device.putBytes goal bytes state)) temporary place identity
      (some goal) := by
  have leadsAfter := respects.putBytes_leads goal bytes drafts.leads
  have written := drafts.eq_or_copies_of_putBytes respects goal bytes
  refine ⟨drafts.absent, ?_, leadsAfter, ?_, ?_⟩
  · rcases written place with same | ⟨_, named⟩ | ⟨unnamed, _⟩
    · exact drafts.stands.of_eq same
    · exact named
    · exact absurd drafts.stands unnamed
  · intro other named
    rcases written other with same | ⟨namedBefore, _⟩ | ⟨_, found, different, namedFound, _⟩
    · exact drafts.alone other (named.of_eq same.symm)
    · exact drafts.alone other namedBefore
    · exact absurd (eq_of_names namedFound named) different
  · intro other different
    rcases written other with same | ⟨namedBefore, _⟩ | ⟨_, copy⟩
    · exact .inl (same.trans (drafts.eq_of_ne different))
    · exact absurd (drafts.alone other namedBefore) different
    · exact .inr ⟨goal, rfl, copy⟩

/-- Once the temporary file is moved, the only places that are changed hold it. -/
theorem rename (respects : device.Respects view)
    (drafts : view.Drafts before state temporary place identity none)
    (run : device.rename temporary goal state = .ok () after) (other : π) :
    view.at? after other = view.at? before other ∨ view.Holds after goal other := by
  obtain ⟨moved, leads, places⟩ := respects.rename drafts.leads run
  rcases places other with ⟨bytes, stands⟩ | ⟨named, gone⟩ | ⟨unnamed, same⟩
  · exact .inr ⟨moved, bytes, stands, leads⟩
  · cases drafts.alone other named
    exact .inl (gone.trans drafts.absent.symm)
  · have different : other ≠ place := fun here => unnamed (here ▸ drafts.stands)
    exact .inl (same.trans (drafts.eq_of_ne different))

/-- Once the temporary file is removed, the only places that are changed hold its copy. -/
theorem remove (respects : device.Respects view)
    (drafts : view.Drafts before state temporary place identity copied)
    (run : device.remove temporary state = .ok () after) (other : π) :
    view.at? after other = view.at? before other ∨
      ∃ goal, copied = some goal ∧ view.Holds after goal other := by
  obtain ⟨⟨given, named, gone⟩, kept⟩ := respects.remove drafts.leads run
  cases drafts.alone given named
  by_cases here : other = place
  · subst here
    exact .inl (gone.trans drafts.absent.symm)
  · have same : view.at? after other = view.at? state other :=
      (kept other).resolve_right fun removed => here (drafts.alone other removed.1)
    rw [same]
    refine (drafts.elsewhere other here).imp_right ?_
    rintro ⟨goal, isCopied, found, different, ⟨bytes, stands⟩, leads⟩
    exact ⟨goal, isCopied, found, bytes, same.trans stands,
      respects.remove_leads drafts.leads run leads different⟩

end Drafts

end View

end EntityForge.Files
