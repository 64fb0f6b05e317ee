import EntityForge.ModelFile.Content
import EntityForge.Proofs.ModelFile.References

/-!
# When content is a model

The content of a model file gives a model exactly if its entities are valid once the targets of
their relationships are expanded, and its options are valid, too.  It is refused with a fault of
the walk exactly if the walk does not get through.
-/

namespace EntityForge.ModelFile

open EntityForge.Schema

/-- Valid entities never stop the walk. -/
theorem isWalkable_of_read {known : List (Text × Data)} {raw : Data} {entity : Entity}
    (run : Entity.read (expandEntity known raw) = .valid entity) : IsWalkable raw := by
  cases raw with
  | map entries =>
      constructor
      · intro _
        obtain ⟨expanded, shape, same⟩ := exists_expandEntity known entries
        rw [shape] at run
        obtain ⟨declared, found, hashable⟩ := Entity.read_class run
        rw [entry, ← same "entity_class" (by decide), found]
        exact hashable
      · intro truthy
        by_cases other : IsNoList (entry "relationships" (.map entries))
        · rw [expandEntity_of_noList other, if_pos truthy] at run
          exact absurd run (read_ne_valid rfl (ne_null_of_isTruthy truthy) other)
        · obtain ⟨items, listed⟩ := exists_of_not_isNoList other
          rcases listed with same | same | same <;>
          · rw [same]
            rfl
  | _ =>
      obtain ⟨entries, impossible⟩ := Entity.read_eq_valid run
      cases impossible

theorem isProper_of_entityList? {value : Data} {entities : List Data}
    (proper : value.isProper = true) (found : entityList? value = some entities) :
    ∀ raw ∈ entities, raw.isProper = true := by
  cases value with
  | list items =>
      cases found
      rwa [Data.isProper, Data.allProper_iff] at proper
  | map entries =>
      rw [entityList?] at found
      split at found
      next items lookup =>
        cases found
        have inner := Data.isProper_of_lookup? proper lookup
        rwa [Data.isProper, Data.allProper_iff] at inner
      next => cases found
  | _ => cases found

/-- The entities of proper content are proper. -/
theorem isProper_of_entities? {content : List (Data × Data)} {entities : List Data}
    (proper : (Data.map content).isProper = true) (found : entities? content = some entities) :
    ∀ raw ∈ entities, raw.isProper = true := by
  obtain ⟨value, present, listed⟩ := Option.bind_eq_some_iff.mp found
  refine isProper_of_entityList? ?_ listed
  cases lookup : Data.lookup? "model" content with
  | some given =>
      rw [lookup] at present
      cases present
      exact Data.isProper_of_lookup? proper lookup
  | none =>
      rw [lookup] at present
      exact Data.isProper_of_lookup? proper present

/-- The entities of content with the bare names of targets in full, in the form of a model. -/
def expandedModel (entities : List Data) : Data :=
  Data.object [("entities", .list (entities.map (expandEntity (knownClasses entities))))]

/-- After the walk the same models are read as after the expansion. -/
theorem read_walked_iff {entities : List Data} {model : EntityModel}
    (proper : ∀ raw ∈ entities, raw.isProper = true)
    (walkable : ∀ raw ∈ entities, IsWalkable raw) :
    EntityModel.read (Data.object
        [("entities", .list (entities.map (walkedEntity (knownClasses entities))))]) =
          .valid model ↔
      EntityModel.read (expandedModel entities) = .valid model := by
  rw [expandedModel, EntityModel.read_object_iff, EntityModel.read_object_iff,
    List.forall₂_map_left_iff, List.forall₂_map_left_iff]
  generalize knownClasses entities = known
  generalize model.entities = read
  induction entities generalizing read with
  | nil => rw [List.forall₂_nil_left_iff, List.forall₂_nil_left_iff]
  | cons raw rest ih =>
      rw [List.forall_mem_cons] at proper walkable
      rw [List.forall₂_cons_left_iff, List.forall₂_cons_left_iff]
      simp only [read_walkedEntity_iff proper.1 walkable.1.2, ih proper.2 walkable.2]

/-- Reading content goes on from the entities that the walk leaves. -/
theorem parse_of_resolved {content : List (Data × Data)} {entities resolved : List Data}
    (found : entities? content = some entities)
    (walked : resolveReferences entities = .ok resolved) :
    parse content =
      match EntityModel.read (Data.object [("entities", .list resolved)]) with
      | .invalid issues => .error (.model issues)
      | .valid model =>
          match GeneratorOptions.read ((options? content).getD (.map [])) with
          | .invalid issues => .error (.options issues)
          | .valid options => .ok (model, options) := by
  rw [parse, found]
  simp only [walked]
  rfl

theorem parse_of_fault {content : List (Data × Data)} {entities : List Data}
    {fault : ReferenceFault} (found : entities? content = some entities)
    (stopped : resolveReferences entities = .error fault) :
    parse content = .error (.reference fault) := by
  rw [parse, found]
  simp only [stopped]
  rfl

theorem parse_of_noEntities {content : List (Data × Data)} (none : entities? content = none) :
    parse content = .error .noEntities := by
  rw [parse, none]
  rfl

/-- Content that is read has entities, through which the walk gets. -/
theorem exists_resolved_of_parse {content : List (Data × Data)} {model : EntityModel}
    {options : GeneratorOptions} (run : parse content = .ok (model, options)) :
    ∃ entities resolved, entities? content = some entities ∧
      resolveReferences entities = .ok resolved ∧
      EntityModel.read (Data.object [("entities", .list resolved)]) = .valid model := by
  cases found : entities? content with
  | none => cases (parse_of_noEntities found).symm.trans run
  | some entities =>
      cases walked : resolveReferences entities with
      | error fault => cases (parse_of_fault found walked).symm.trans run
      | ok resolved =>
          rw [parse_of_resolved found walked] at run
          refine ⟨entities, resolved, rfl, walked, ?_⟩
          cases read : EntityModel.read (Data.object [("entities", .list resolved)]) with
          | invalid issues =>
              rw [read] at run
              cases run
          | valid other =>
              rw [read] at run
              cases accepted : GeneratorOptions.read ((options? content).getD (.map [])) with
              | invalid issues =>
                  rw [accepted] at run
                  cases run
              | valid given =>
                  rw [accepted] at run
                  cases run
                  rfl

/-- The walk gets through a valid model. -/
theorem isWalkable_of_read_model {entities : List Data} {model : EntityModel}
    (run : EntityModel.read (expandedModel entities) = .valid model) :
    ∀ raw ∈ entities, IsWalkable raw := by
  intro raw member
  have paired := EntityModel.read_object_iff.mp run
  obtain ⟨entity, read⟩ := exists_of_forall₂ paired (List.mem_map_of_mem member)
  exact isWalkable_of_read read

/-- Content gives a model exactly if its expanded entities and its options are valid. -/
theorem parse_eq_ok_iff {content : List (Data × Data)} {model : EntityModel}
    {options : GeneratorOptions} (proper : (Data.map content).isProper = true) :
    parse content = .ok (model, options) ↔
      ∃ entities, entities? content = some entities ∧
        EntityModel.read (expandedModel entities) = .valid model ∧
        GeneratorOptions.read ((options? content).getD (.map [])) = .valid options := by
  cases found : entities? content with
  | none => simp [parse_of_noEntities found]
  | some entities =>
      cases walked : resolveReferences entities with
      | error fault =>
          have invalid : EntityModel.read (expandedModel entities) ≠ .valid model := by
            intro run
            cases walked.symm.trans
              (resolveReferences_eq_ok_iff.mpr ⟨isWalkable_of_read_model run, rfl⟩)
          simp [parse_of_fault found walked, invalid]
      | ok resolved =>
          obtain ⟨walkable, rfl⟩ := resolveReferences_eq_ok_iff.mp walked
          have same : _ ↔ EntityModel.read (expandedModel entities) = .valid model :=
            read_walked_iff (isProper_of_entities? proper found) walkable
          rw [parse_of_resolved found walked]
          simp only [Option.some.injEq, exists_eq_left', ← same]
          split
          next issues invalid => simp [invalid]
          next read valid =>
            split
            next issues refused => simp [refused]
            next given accepted => simp [valid, accepted]

/-- Content whose entities, if it has any, never stop the walk. -/
def HasWalkableEntities (content : List (Data × Data)) : Prop :=
  ∀ entities, entities? content = some entities → ∀ raw ∈ entities, IsWalkable raw

/-- Content is refused by the walk exactly if some entity stops it. -/
theorem exists_parse_eq_reference_iff {content : List (Data × Data)} :
    (∃ fault, parse content = .error (.reference fault)) ↔ ¬HasWalkableEntities content := by
  rw [HasWalkableEntities]
  cases found : entities? content with
  | none => simp [parse_of_noEntities found]
  | some entities =>
      simp only [Option.some.injEq, forall_eq']
      cases walked : resolveReferences entities with
      | error fault =>
          refine iff_of_true ⟨fault, parse_of_fault found walked⟩ fun walkable => ?_
          cases walked.symm.trans (resolveReferences_eq_ok_iff.mpr ⟨walkable, rfl⟩)
      | ok resolved =>
          have walkable := (resolveReferences_eq_ok_iff.mp walked).1
          refine iff_of_false ?_ (not_not_intro walkable)
          rintro ⟨fault, refused⟩
          rw [parse_of_resolved found walked] at refused
          split at refused
          next => cases refused
          next =>
            split at refused
            next => cases refused
            next => cases refused

/-! ## Hollow relationships -/

/-- The entities of content with the bare names of targets in full, in the form of a model, where
only null relationships are dropped. -/
def strictModel (entities : List Data) : Data :=
  Data.object [("entities", .list (entities.map (strictEntity (knownClasses entities))))]

theorem read_strictModel_iff {entities : List Data} {model : EntityModel} :
    EntityModel.read (strictModel entities) = .valid model ↔
      EntityModel.read (expandedModel entities) = .valid model ∧
        ∀ raw ∈ entities, ¬HasHollowRelationships raw := by
  rw [strictModel, expandedModel, EntityModel.read_object_iff, EntityModel.read_object_iff,
    List.forall₂_map_left_iff, List.forall₂_map_left_iff]
  generalize knownClasses entities = known
  generalize model.entities = read
  induction entities generalizing read with
  | nil => simp
  | cons raw rest ih =>
      rw [List.forall₂_cons_left_iff, List.forall₂_cons_left_iff, List.forall_mem_cons]
      simp only [ih]
      simp only [read_strictEntity_iff]
      constructor
      · rintro ⟨entity, others, ⟨here, solid⟩, ⟨later, solids⟩, same⟩
        exact ⟨⟨entity, others, here, later, same⟩, solid, solids⟩
      · rintro ⟨⟨entity, others, here, later, same⟩, solid, solids⟩
        exact ⟨entity, others, ⟨here, solid⟩, ⟨later, solids⟩, same⟩

/-- The model and the options that content is written for: the expanded entities are valid as they
stand, and so are the options. -/
def Denotes (content : List (Data × Data)) (model : EntityModel) (options : GeneratorOptions) :
    Prop :=
  ∃ entities, entities? content = some entities ∧
    EntityModel.read (strictModel entities) = .valid model ∧
    GeneratorOptions.read ((options? content).getD (.map [])) = .valid options

/-- More is read than content is written for, but only with hollow relationships. -/
theorem denotes_iff {content : List (Data × Data)} {model : EntityModel}
    {options : GeneratorOptions} (proper : (Data.map content).isProper = true) :
    Denotes content model options ↔
      parse content = .ok (model, options) ∧
        ∀ entities, entities? content = some entities →
          ∀ raw ∈ entities, ¬HasHollowRelationships raw := by
  rw [parse_eq_ok_iff proper, Denotes]
  simp only [read_strictModel_iff]
  constructor
  · rintro ⟨entities, found, ⟨valid, solid⟩, accepted⟩
    refine ⟨⟨entities, found, valid, accepted⟩, fun others same => ?_⟩
    cases found.symm.trans same
    exact solid
  · rintro ⟨⟨entities, found, valid, accepted⟩, solid⟩
    exact ⟨entities, found, ⟨valid, solid entities found⟩, accepted⟩

end EntityForge.ModelFile
