import EntityForge.Proofs.Model.RoundTrip
import EntityForge.Proofs.ModelFile.Parse

/-!
# Canonical content

Whatever content a model and its options were read from, with types given by their names, targets
by dotted or by bare names, columns left open, options under their second spelling: their dumped
values make content, too, from which the same model and the same options are read.
-/

namespace EntityForge.ModelFile

open EntityForge.Schema
open EntityForge.Schema.Checked

/-- The content that a model and options are dumped to, without computed entries. -/
def canonical (model : EntityModel) (options : GeneratorOptions) : List (Data × Data) :=
  [ (.text "entities", entry "entities" model.dump.withoutComputed),
    (.text "options", options.dump.withoutComputed) ]

theorem entities_dump (model : EntityModel) :
    entry "entities" model.dump.withoutComputed =
      .list (model.entities.map fun entity => entity.dump.withoutComputed) := by
  rw [← Data.itemsWithoutComputed_map]
  rfl

/-! ## The walk -/

/-- A target in full is left as it is. -/
theorem resolveRelationship_dump (known : List (Text × Data)) (relationship : Relationship) :
    resolveRelationship known relationship.dump.withoutComputed =
      relationship.dump.withoutComputed := by
  rw [relationship.withoutComputed_dump]
  rfl

theorem isWalkable_dump (entity : Entity) : IsWalkable entity.dump.withoutComputed := by
  rw [entity.withoutComputed_dump]
  exact ⟨fun _ => rfl, fun _ => rfl⟩

theorem memberList_list (items : List Data) : memberList (.list items) = items := by
  cases items <;> rfl

/-- The walk leaves dumped entities as they are. -/
theorem walkedEntity_dump (known : List (Text × Data)) (entity : Entity) :
    walkedEntity known entity.dump.withoutComputed = entity.dump.withoutComputed := by
  rw [entity.withoutComputed_dump]
  have resolved (relationships : List Relationship) :
      (relationships.map fun relationship => relationship.dump.withoutComputed).map
          (resolveRelationship known) =
        relationships.map fun relationship => relationship.dump.withoutComputed := by
    rw [List.map_map]
    exact List.map_congr_left fun relationship _ => resolveRelationship_dump known relationship
  have found (relationships : List Data) :
      entry "relationships" (.object (entity.fields relationships)) = .list relationships := rfl
  have assigned (relationships : List Data) :
      walkedEntity known (.object (entity.fields relationships)) =
        .object (entity.fields ((memberList (entry "relationships"
          (.object (entity.fields relationships)))).map (resolveRelationship known))) := rfl
  rw [assigned, found, memberList_list, resolved]

theorem resolveReferences_dump (entities : List Entity) :
    resolveReferences (entities.map fun entity => entity.dump.withoutComputed) =
      .ok (entities.map fun entity => entity.dump.withoutComputed) := by
  rw [resolveReferences_eq_ok_iff, List.forall_mem_map, List.map_map]
  refine ⟨fun entity _ => isWalkable_dump entity, ?_⟩
  refine (List.map_congr_left fun entity _ => ?_).symm
  exact walkedEntity_dump _ entity

/-! ## Reading again -/

/-- The model of content is read from entities whose references are resolved. -/
theorem exists_read_of_parse {content : List (Data × Data)} {model : EntityModel}
    {options : GeneratorOptions} (run : parse content = .ok (model, options)) :
    ∃ resolved, EntityModel.read (Data.object [("entities", .list resolved)]) = .valid model := by
  obtain ⟨_, resolved, _, _, read⟩ := exists_resolved_of_parse run
  exact ⟨resolved, read⟩

/-- Canonical content gives the model and the options that it was made from, if all properties of
the model have their columns. -/
theorem parse_canonical {model : EntityModel} {options : GeneratorOptions}
    (filled : ∀ entity ∈ model.entities, ∀ property ∈ entity.properties, property.IsFilled) :
    parse (canonical model options) = .ok (model, options) := by
  have found : entities? (canonical model options) =
      some (model.entities.map fun entity => entity.dump.withoutComputed) := by
    have listed : entities? (canonical model options) =
        entityList? (entry "entities" model.dump.withoutComputed) := rfl
    rw [listed, entities_dump]
    rfl
  have given : options? (canonical model options) = some options.dump.withoutComputed := rfl
  have read : EntityModel.read (Data.object [("entities",
      .list (model.entities.map fun entity => entity.dump.withoutComputed))]) = .valid model := by
    rw [EntityModel.read_object_iff, List.forall₂_map_left_iff, List.forall₂_same]
    intro entity member
    exact Entity.read_dump (filled entity member)
  rw [parse_of_resolved found (resolveReferences_dump model.entities), read, given]
  simp only [Option.getD_some, options.read_dump]

/-- Dumping a model and its options and reading them again changes nothing, whatever content they
were read from. -/
theorem parse_canonical_of_parse {content : List (Data × Data)} {model : EntityModel}
    {options : GeneratorOptions} (run : parse content = .ok (model, options)) :
    parse (canonical model options) = .ok (model, options) := by
  obtain ⟨resolved, read⟩ := exists_read_of_parse run
  refine parse_canonical ?_
  intro entity member
  obtain ⟨item, run⟩ := exists_of_forall₂ (EntityModel.read_object_iff.mp read).flip member
  exact Entity.isFilled_of_read run

/-- Two linked entities in shorthand: the types by their names, the target by its class alone, the
columns left open, and an option in its second spelling. -/
def shorthand : List (Data × Data) :=
  let property (name type : Text) :=
    Data.object [("property_name", .text name), ("system_type", .text type)]
  let order := Data.object
    [ ("entity_namespace", .text "Shop"), ("entity_class", .text "Order"),
      ("properties", .list [property "Id" "int"]),
      ("relationships", .list [.object
        [("property_name", .text "Items"), ("cardinality", .text "many"),
          ("primary_entity", .text "Item")]]) ]
  let item := Data.object
    [ ("entity_namespace", .text "Shop"), ("entity_class", .text "Item"),
      ("properties", .list [property "Id" "int"]) ]
  [ (.text "model", .list [order, item]),
    (.text "config", .object [("Document", .text "yes"), ("indent_size", .text "2")]) ]

/-- The shorthand is read, and so is what it stands for. -/
theorem parse_canonical_shorthand :
    ∃ model options, parse shorthand = .ok (model, options) ∧
      parse (canonical model options) = .ok (model, options) := by
  have given : (parse shorthand).toOption.isSome = true := by decide +kernel
  have read : ∃ model options, parse shorthand = .ok (model, options) := by
    cases outcome : parse shorthand with
    | error fault =>
        rw [outcome] at given
        cases given
    | ok result => exact ⟨result.1, result.2, rfl⟩
  obtain ⟨model, options, run⟩ := read
  exact ⟨model, options, run, parse_canonical_of_parse run⟩

end EntityForge.ModelFile
