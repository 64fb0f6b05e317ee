import Mathlib.Data.List.Forall2

/-!
# Traversals that may fail

A list is worked off from left to right up to the first error.  A traversal succeeds exactly if
every item does, and its results stand in the order of the items.
-/

namespace EntityForge

variable {α β ε : Type}

/-- Every paired item has a result. -/
theorem exists_of_forall₂ {relates : α → β → Prop} {items : List α} {results : List β}
    (paired : List.Forall₂ relates items results) {item : α} (member : item ∈ items) :
    ∃ result, relates item result := by
  induction paired with
  | nil => cases member
  | @cons first result rest more here _ ih =>
      rcases List.mem_cons.mp member with rfl | later
      · exact ⟨result, here⟩
      · exact ih later

/-- What is true of the second items of all pairs is true of every second item. -/
theorem forall_of_forall_zip {holds : β → Prop} {items : List α} {images : List β}
    (lengths : items.length = images.length)
    (each : ∀ item image, (item, image) ∈ items.zip images → holds image) :
    ∀ image ∈ images, holds image := by
  intro image member
  have paired : List.Forall₂ (fun image _ => holds image) images items :=
    List.Forall₂.flip (List.forall₂_iff_zip.mpr ⟨lengths, each _ _⟩)
  obtain ⟨_, here⟩ := exists_of_forall₂ paired member
  exact here

/-- A successful traversal pairs every item with its result. -/
theorem mapM_eq_ok_iff {action : α → Except ε β} {items : List α} {results : List β} :
    items.mapM action = .ok results ↔
      List.Forall₂ (fun item result => action item = .ok result) items results := by
  induction items generalizing results with
  | nil =>
      simp only [List.mapM_nil, List.forall₂_nil_left_iff]
      exact ⟨fun equal => (Except.ok.inj equal).symm, fun equal => equal ▸ rfl⟩
  | cons item rest ih =>
      rw [List.mapM_cons]
      cases first : action item with
      | error error =>
          constructor
          · intro impossible
            cases impossible
          · intro paired
            cases paired with
            | cons head _ => cases first.symm.trans head
      | ok result =>
          cases others : rest.mapM action with
          | error error =>
              constructor
              · intro impossible
                cases impossible
              · intro paired
                cases paired with
                | cons _ tail => cases others.symm.trans (ih.mpr tail)
          | ok more =>
              constructor
              · intro equal
                cases equal
                exact .cons first (ih.mp others)
              · intro paired
                cases paired with
                | cons head tail =>
                    cases first.symm.trans head
                    cases others.symm.trans (ih.mpr tail)
                    rfl

/-- Every result of a successful traversal is that of some item. -/
theorem exists_of_mem_mapM {action : α → Except ε β} {items : List α} {results : List β}
    (run : items.mapM action = .ok results) {result : β} (member : result ∈ results) :
    ∃ item ∈ items, action item = .ok result := by
  have paired := mapM_eq_ok_iff.mp run
  clear run
  induction paired with
  | nil => cases member
  | @cons item found rest more here _ ih =>
      rcases List.mem_cons.mp member with first | later
      · exact ⟨item, List.mem_cons_self, first ▸ here⟩
      · obtain ⟨other, inRest, ran⟩ := ih later
        exact ⟨other, List.mem_cons_of_mem _ inRest, ran⟩

/-- A traversal fails exactly if some item does. -/
theorem mapM_eq_error_iff {action : α → Except ε β} {items : List α} :
    (∃ error, items.mapM action = .error error) ↔
      ∃ item ∈ items, ∃ error, action item = .error error := by
  induction items with
  | nil =>
      constructor
      · rintro ⟨error, impossible⟩
        cases impossible
      · rintro ⟨item, member, _⟩
        cases member
  | cons item rest ih =>
      rw [List.mapM_cons]
      cases first : action item with
      | error error =>
          exact ⟨fun _ => ⟨item, List.mem_cons_self, error, first⟩, fun _ => ⟨error, rfl⟩⟩
      | ok result =>
          have same : (∃ error, (do
              let results ← rest.mapM action
              return result :: results : Except ε (List β)) = .error error) ↔
              ∃ error, rest.mapM action = .error error := by
            cases rest.mapM action with
            | error error => exact ⟨fun _ => ⟨error, rfl⟩, fun _ => ⟨error, rfl⟩⟩
            | ok more =>
                constructor <;>
                · rintro ⟨error, impossible⟩
                  cases impossible
          refine same.trans (ih.trans ?_)
          simp [first]

/-- A traversal fails with the error of the first item that does. -/
theorem mapM_eq_error_iff_first {action : α → Except ε β} {items : List α} {error : ε} :
    items.mapM action = .error error ↔
      ∃ before item after, items = before ++ item :: after ∧
        (∀ earlier ∈ before, ∃ result, action earlier = .ok result) ∧
        action item = .error error := by
  induction items with
  | nil =>
      constructor
      · intro impossible
        cases impossible
      · rintro ⟨before, item, after, split, _⟩
        cases before <;> cases split
  | cons first rest ih =>
      rw [List.mapM_cons]
      cases here : action first with
      | error fault =>
          constructor
          · intro equal
            cases equal
            exact ⟨[], first, rest, rfl, fun _ none => absurd none List.not_mem_nil, here⟩
          · rintro ⟨before, item, after, split, succeed, failed⟩
            cases before with
            | nil =>
                cases split
                cases here.symm.trans failed
                rfl
            | cons head tail =>
                cases split
                obtain ⟨result, ran⟩ := succeed _ List.mem_cons_self
                cases here.symm.trans ran
      | ok result =>
          have same : (do
              let results ← rest.mapM action
              return result :: results : Except ε (List β)) = .error error ↔
              rest.mapM action = .error error := by
            cases rest.mapM action with
            | error other => exact Iff.rfl
            | ok more =>
                constructor <;>
                · intro impossible
                  cases impossible
          refine same.trans (ih.trans ?_)
          constructor
          · rintro ⟨before, item, after, rfl, succeed, failed⟩
            exact ⟨first :: before, item, after, rfl,
              List.forall_mem_cons.mpr ⟨⟨result, here⟩, succeed⟩, failed⟩
          · rintro ⟨before, item, after, split, succeed, failed⟩
            cases before with
            | nil =>
                cases split
                cases here.symm.trans failed
            | cons head tail =>
                cases split
                exact ⟨tail, item, after, rfl, (List.forall_mem_cons.mp succeed).2, failed⟩

/-- A traversal succeeds exactly if every item does. -/
theorem exists_mapM_eq_ok_iff {action : α → Except ε β} {items : List α} :
    (∃ results, items.mapM action = .ok results) ↔
      ∀ item ∈ items, ∃ result, action item = .ok result := by
  constructor
  · rintro ⟨results, run⟩ item member
    cases here : action item with
    | ok result => exact ⟨result, rfl⟩
    | error error =>
        obtain ⟨fault, failed⟩ := mapM_eq_error_iff.mpr ⟨item, member, error, here⟩
        cases run.symm.trans failed
  · intro each
    cases run : items.mapM action with
    | ok results => exact ⟨results, rfl⟩
    | error error =>
        obtain ⟨item, member, fault, failed⟩ := mapM_eq_error_iff.mp ⟨error, run⟩
        obtain ⟨result, succeeded⟩ := each item member
        cases succeeded.symm.trans failed

/-- A traversal by an action that gives an image or fails is a map over items that do not fail. -/
theorem mapM_eq_ok_iff_map {action : α → Except ε β} {usable : α → Prop} {image : α → β}
    (good : ∀ item, usable item → action item = .ok (image item))
    (bad : ∀ item, ¬usable item → ∃ error, action item = .error error)
    {items : List α} {results : List β} :
    items.mapM action = .ok results ↔
      (∀ item ∈ items, usable item) ∧ results = items.map image := by
  have succeeds : ∀ item, (∃ result, action item = .ok result) → usable item := by
    rintro item ⟨result, run⟩
    by_contra unusable
    obtain ⟨error, failed⟩ := bad item unusable
    cases run.symm.trans failed
  constructor
  · intro run
    have each := exists_mapM_eq_ok_iff.mp ⟨results, run⟩
    have all : ∀ item ∈ items, usable item := fun item member => succeeds item (each item member)
    refine ⟨all, ?_⟩
    have paired := mapM_eq_ok_iff.mp run
    clear run each
    induction paired with
    | nil => rfl
    | cons here _ ih =>
        rw [List.forall_mem_cons] at all
        rw [List.map_cons, ← ih all.2, Except.ok.inj ((good _ all.1).symm.trans here)]
  · rintro ⟨all, rfl⟩
    rw [mapM_eq_ok_iff]
    induction items with
    | nil => exact .nil
    | cons item rest ih =>
        rw [List.forall_mem_cons] at all
        exact .cons (good item all.1) (ih all.2)

/-- Selecting from a list pairs what is kept with its images, in the order of the list. -/
theorem forall₂_filterMap {items : List α} {keep : α → Bool} {select : α → Option β}
    {relates : α → β → Prop}
    (kept : ∀ item, keep item = true → ∃ image, select item = some image ∧ relates item image)
    (dropped : ∀ item, keep item = false → select item = none) :
    List.Forall₂ relates (items.filter keep) (items.filterMap select) := by
  induction items with
  | nil => exact .nil
  | cons item rest ih =>
      cases verdict : keep item with
      | true =>
          obtain ⟨image, selected, related⟩ := kept item verdict
          rw [List.filter_cons_of_pos verdict, List.filterMap_cons_some selected]
          exact .cons related ih
      | false =>
          rw [List.filter_cons_of_neg (by simp [verdict]),
            List.filterMap_cons_none (dropped item verdict)]
          exact ih

/-- What is said of paired items is said of all of one list or of all of the other. -/
theorem forall_mem_iff_of_forall₂ {relates : α → β → Prop} {items : List α} {results : List β}
    {ofItem : α → Prop} {ofResult : β → Prop} (paired : List.Forall₂ relates items results)
    (same : ∀ item result, relates item result → (ofResult result ↔ ofItem item)) :
    (∀ result ∈ results, ofResult result) ↔ ∀ item ∈ items, ofItem item := by
  induction paired with
  | nil => simp
  | cons here _ ih => rw [List.forall_mem_cons, List.forall_mem_cons, same _ _ here, ih]

/-- Paired lists are equal if equals are paired. -/
theorem map_eq_of_forall₂ {image : α → β} {items : List α} {images : List β}
    (paired : List.Forall₂ (fun item found => image item = found) items images) :
    items.map image = images := by
  induction paired with
  | nil => rfl
  | cons here _ ih => rw [List.map_cons, here, ih]

/-- A selection from paired lists is the same if what is selected from them is. -/
theorem filter_eq_of_forall₂ {keep : α → Bool} {relates : α → α → Prop} {items images : List α}
    (paired : List.Forall₂ relates items images)
    (same : ∀ item image, relates item image →
      keep image = keep item ∧ (keep item = true → image = item)) :
    images.filter keep = items.filter keep := by
  induction paired with
  | nil => rfl
  | @cons item image _ _ here _ ih =>
      obtain ⟨verdict, equal⟩ := same item image here
      rw [List.filter_cons, List.filter_cons, verdict, ih]
      cases kept : keep item with
      | true => rw [equal kept]
      | false => rfl

/-- Mapping a result keeps errors. -/
theorem map_eq_ok_iff {image : α → β} {outcome : Except ε α} {result : β} :
    outcome.map image = .ok result ↔ ∃ value, outcome = .ok value ∧ image value = result := by
  cases outcome with
  | error error => simp [Except.map]
  | ok value => simp [Except.map]

theorem exists_map_eq_ok_iff {image : α → β} {outcome : Except ε α} :
    (∃ result, outcome.map image = .ok result) ↔ ∃ value, outcome = .ok value := by
  cases outcome with
  | error error => simp [Except.map]
  | ok value => simp [Except.map]

/-- Going on with a result keeps errors. -/
theorem except_bind_eq_ok_iff {outcome : Except ε α} {next : α → Except ε β} {result : β} :
    outcome.bind next = .ok result ↔ ∃ value, outcome = .ok value ∧ next value = .ok result := by
  cases outcome with
  | error error => simp [Except.bind]
  | ok value => simp [Except.bind]

/-- Only an error gives an error. -/
theorem map_eq_error_iff {image : α → β} {outcome : Except ε α} {error : ε} :
    outcome.map image = .error error ↔ outcome = .error error := by
  cases outcome with
  | error fault => simp [Except.map]
  | ok value => simp [Except.map]

/-- Wrapping errors leaves results as they are. -/
theorem mapError_eq_ok_iff {δ : Type} {image : ε → δ} {outcome : Except ε α} {result : α} :
    outcome.mapError image = .ok result ↔ outcome = .ok result := by
  cases outcome with
  | error error => simp [Except.mapError]
  | ok value => simp [Except.mapError]

theorem mapError_eq_error_iff {δ : Type} {image : ε → δ} {outcome : Except ε α} {error : δ} :
    outcome.mapError image = .error error ↔
      ∃ fault, outcome = .error fault ∧ image fault = error := by
  cases outcome with
  | error fault => simp [Except.mapError]
  | ok value => simp [Except.mapError]

end EntityForge
