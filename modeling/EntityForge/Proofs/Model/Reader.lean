import EntityForge.Model.Reader
import EntityForge.Proofs.Data.Entries
import EntityForge.Proofs.Schema.Validity

/-!
# Valid models

When untyped data is read as an entity or as a model: every field is valid, and every key is that
of a field.
-/

namespace EntityForge

open EntityForge.Schema
open EntityForge.Schema.Checked

/-- With fields of one name each, the keys of a record must be among these names. -/
theorem closed_fieldNames_iff {names : List Text} {entries : List (Data × Data)} :
    closed (fieldNames names) entries = .valid () ↔
      ∀ entry ∈ entries, ∃ name ∈ names, entry.1 = .text name := by
  have present {name : Text} : name ∈ (fieldNames names).filterMap (presentName? · entries) ↔
      name ∈ names ∧ (Data.lookup? name entries).isSome = true := by
    simp [fieldNames, presentName?, List.find?_singleton]
  rw [closed_eq_valid_iff]
  refine forall₂_congr fun entry member => ?_
  constructor
  · rintro ⟨name, found, same⟩
    exact ⟨name, (present.mp found).1, same⟩
  · rintro ⟨name, listed, same⟩
    exact ⟨name, present.mpr ⟨listed, Data.isSome_lookup?_iff.mpr ⟨entry, member, same⟩⟩, same⟩

/-- The names of the fields of an entity. -/
def Entity.keys : List Text :=
  [ "entity_namespace", "entity_class", "entity_base_class", "table_name", "table_schema",
    "properties", "relationships" ]

/-- Whether a key is that of a field of an entity. -/
def Entity.IsKey (key : Data) : Prop :=
  ∃ name ∈ Entity.keys, key = .text name

/-- An entity is read from a mapping whose fields are all valid. -/
theorem Entity.read_map_iff {entries : List (Data × Data)} {entity : Entity} :
    Entity.read (.map entries) = .valid entity ↔
      required "entity_namespace" readText entries = .valid entity.entityNamespace ∧
      required "entity_class" readText entries = .valid entity.entityClass ∧
      defaulted "entity_base_class" none (readOptional readText) entries =
        .valid entity.entityBaseClass ∧
      defaulted "table_name" ("" : Text) readText entries = .valid entity.tableName ∧
      defaulted "table_schema" none (readOptional readText) entries = .valid entity.tableSchema ∧
      defaulted "properties" [] (readList Property.read) entries = .valid entity.properties ∧
      defaulted "relationships" [] (readList Relationship.read) entries =
        .valid entity.relationships ∧
      ∀ entry ∈ entries, Entity.IsKey entry.1 := by
  rw [Entity.read, andThen_eq_valid_iff]
  simp only [readEntries, valid_eq_valid_iff, exists_eq_left', withNothingElse_eq_valid_iff,
    closed_fieldNames_iff, seq_eq_valid_iff, map_eq_valid_iff]
  constructor
  · rintro ⟨⟨_, ⟨_, ⟨_, ⟨_, ⟨_, ⟨_, ⟨namespaceName, one, rfl⟩, className, two, rfl⟩, base, three,
      rfl⟩, table, four, rfl⟩, schema, five, rfl⟩, properties, six, rfl⟩, relationships, seven,
      rfl⟩, keys⟩
    exact ⟨one, two, three, four, five, six, seven, keys⟩
  · rintro ⟨one, two, three, four, five, six, seven, keys⟩
    exact ⟨⟨_, ⟨_, ⟨_, ⟨_, ⟨_, ⟨_, ⟨_, one, rfl⟩, _, two, rfl⟩, _, three, rfl⟩, _, four, rfl⟩, _,
      five, rfl⟩, _, six, rfl⟩, _, seven, rfl⟩, keys⟩

theorem Entity.read_eq_valid {data : Data} {entity : Entity}
    (run : Entity.read data = .valid entity) : ∃ entries, data = .map entries :=
  exists_eq_map_of_readEntries run

/-- A class is read from a value that can be looked up. -/
theorem Entity.read_class {entries : List (Data × Data)} {entity : Entity}
    (run : Entity.read (.map entries) = .valid entity) :
    ∃ declared, Data.lookup? "entity_class" entries = some declared ∧
      declared.isHashable = true := by
  obtain ⟨_, required, _⟩ := read_map_iff.mp run
  obtain ⟨declared, found, read⟩ := required_eq_valid_iff.mp required
  refine ⟨declared, found, ?_⟩
  cases declared with
  | text | bytes => rfl
  | _ => cases read

/-- Two mappings that differ in their relationships only are read as one entity, if their
relationships are read alike. -/
theorem Entity.read_map_congr {left right : List (Data × Data)} {entity : Entity}
    (others : ∀ name, name ≠ ("relationships" : Text) →
      Data.lookup? name left = Data.lookup? name right)
    (relationships : ∀ values,
      defaulted "relationships" [] (readList Relationship.read) left = .valid values ↔
        defaulted "relationships" [] (readList Relationship.read) right = .valid values)
    (keys : (∀ entry ∈ left, Entity.IsKey entry.1) ↔ ∀ entry ∈ right, Entity.IsKey entry.1) :
    Entity.read (.map left) = .valid entity ↔ Entity.read (.map right) = .valid entity := by
  rw [read_map_iff, read_map_iff, relationships, keys,
    required_congr (others "entity_namespace" (by decide)),
    required_congr (others "entity_class" (by decide)),
    defaulted_congr (others "entity_base_class" (by decide)),
    defaulted_congr (others "table_name" (by decide)),
    defaulted_congr (others "table_schema" (by decide)),
    defaulted_congr (others "properties" (by decide))]

/-- Relationships that are assigned are read by themselves, and all else without them. -/
theorem Entity.read_assign_relationships_iff {entries : List (Data × Data)} {value : Data}
    {entity : Entity} :
    Entity.read (.map (Data.assign "relationships" value entries)) = .valid entity ↔
      readList Relationship.read value = .valid entity.relationships ∧
        Entity.read (.map (Data.without "relationships" entries)) =
          .valid { entity with relationships := [] } := by
  have others (name : Text) (different : name ≠ "relationships") :
      Data.lookup? name (Data.assign "relationships" value entries) =
        Data.lookup? name (Data.without "relationships" entries) := by
    rw [Data.lookup?_assign_of_ne different, Data.lookup?_without_of_ne different]
  have assigned : defaulted "relationships" [] (readList Relationship.read)
      (Data.assign "relationships" value entries) = .valid entity.relationships ↔
        readList Relationship.read value = .valid entity.relationships := by
    rw [defaulted_eq_valid_iff, Data.lookup?_assign_self]
    simp
  have absent : defaulted "relationships" [] (readList Relationship.read)
      (Data.without "relationships" entries) = .valid [] :=
    defaulted_eq_valid_iff.mpr (.inl ⟨Data.lookup?_without_self _ _, rfl⟩)
  have own : Entity.IsKey (.text "relationships") := ⟨"relationships", by decide, rfl⟩
  have keys : (∀ entry ∈ Data.assign "relationships" value entries, Entity.IsKey entry.1) ↔
      ∀ entry ∈ Data.without "relationships" entries, Entity.IsKey entry.1 :=
    (Data.forall_key_assign_iff own).trans (Data.forall_key_without_iff own).symm
  rw [read_map_iff, read_map_iff, assigned, keys,
    required_congr (others "entity_namespace" (by decide)),
    required_congr (others "entity_class" (by decide)),
    defaulted_congr (others "entity_base_class" (by decide)),
    defaulted_congr (others "table_name" (by decide)),
    defaulted_congr (others "table_schema" (by decide)),
    defaulted_congr (others "properties" (by decide))]
  constructor
  · rintro ⟨one, two, three, four, five, six, listed, known⟩
    exact ⟨listed, one, two, three, four, five, six, absent, known⟩
  · rintro ⟨listed, one, two, three, four, five, six, _, known⟩
    exact ⟨one, two, three, four, five, six, listed, known⟩

/-- No relationships are as good as an empty list of them. -/
theorem Entity.read_without_relationships_iff {entries : List (Data × Data)} {entity : Entity} :
    Entity.read (.map (Data.assign "relationships" (.list []) entries)) = .valid entity ↔
      Entity.read (.map (Data.without "relationships" entries)) = .valid entity := by
  have own : Entity.IsKey (.text "relationships") := ⟨"relationships", by decide, rfl⟩
  refine read_map_congr ?_ ?_ ?_
  · intro name different
    rw [Data.lookup?_assign_of_ne different, Data.lookup?_without_of_ne different]
  · intro values
    rw [defaulted_eq_valid_iff, defaulted_eq_valid_iff, Data.lookup?_assign_self,
      Data.lookup?_without_self]
    simp [readList, items, eq_comm]
  · exact (Data.forall_key_assign_iff own).trans (Data.forall_key_without_iff own).symm

/-- A reference is read from a mapping whose fields are all valid. -/
theorem EntityReference.read_map_iff {entries : List (Data × Data)}
    {reference : EntityReference} :
    EntityReference.read (.map entries) = .valid reference ↔
      defaulted "entity_namespace" ("" : Text) readText entries = .valid reference.entityNamespace ∧
      required "entity_class" readText entries = .valid reference.entityClass ∧
      ∀ entry ∈ entries,
        ∃ name ∈ (["entity_namespace", "entity_class"] : List Text), entry.1 = .text name := by
  rw [EntityReference.read, andThen_eq_valid_iff]
  simp only [readEntries, valid_eq_valid_iff, exists_eq_left', withNothingElse_eq_valid_iff,
    closed_fieldNames_iff, seq_eq_valid_iff, map_eq_valid_iff]
  constructor
  · rintro ⟨⟨_, ⟨namespaceName, one, rfl⟩, className, two, rfl⟩, keys⟩
    exact ⟨one, two, keys⟩
  · rintro ⟨one, two, keys⟩
    exact ⟨⟨_, ⟨_, one, rfl⟩, _, two, rfl⟩, keys⟩

theorem EntityReference.read_eq_valid {data : Data} {reference : EntityReference}
    (run : EntityReference.read data = .valid reference) : ∃ entries, data = .map entries :=
  exists_eq_map_of_readEntries run

theorem Relationship.read_eq_valid {data : Data} {relationship : Relationship}
    (run : Relationship.read data = .valid relationship) : ∃ entries, data = .map entries :=
  exists_eq_map_of_readEntries run

/-- A relationship is read from a mapping whose fields are all valid. -/
theorem Relationship.read_map_iff {entries : List (Data × Data)} {relationship : Relationship} :
    Relationship.read (.map entries) = .valid relationship ↔
      required "property_name" readText entries = .valid relationship.propertyName ∧
      defaulted "cardinality" .one Cardinality.read entries = .valid relationship.cardinality ∧
      required "primary_entity"
        (fun target => EntityReference.read (EntityReference.expand target)) entries =
          .valid relationship.primaryEntity ∧
      defaulted "properties" [] (readList readText) entries = .valid relationship.properties ∧
      ∀ entry ∈ entries,
        ∃ name ∈ (["property_name", "cardinality", "primary_entity", "properties"] : List Text),
          entry.1 = .text name := by
  rw [Relationship.read, andThen_eq_valid_iff]
  simp only [readEntries, valid_eq_valid_iff, exists_eq_left', withNothingElse_eq_valid_iff,
    closed_fieldNames_iff, seq_eq_valid_iff, map_eq_valid_iff]
  constructor
  · rintro ⟨⟨_, ⟨_, ⟨_, ⟨name, one, rfl⟩, cardinality, two, rfl⟩, target, three, rfl⟩, properties,
      four, rfl⟩, keys⟩
    exact ⟨one, two, three, four, keys⟩
  · rintro ⟨one, two, three, four, keys⟩
    exact ⟨⟨_, ⟨_, ⟨_, ⟨_, one, rfl⟩, _, two, rfl⟩, _, three, rfl⟩, _, four, rfl⟩, keys⟩

/-- Relationships are read from a collection of mappings, which is no mapping itself. -/
theorem Entity.read_relationships {entries : List (Data × Data)} {entity : Entity} {value : Data}
    (run : Entity.read (.map entries) = .valid entity)
    (found : Data.lookup? "relationships" entries = some value) :
    ∃ items, (value = .list items ∨ value = .tuple items ∨ value = .set items) ∧
      ∀ item ∈ items, ∃ inner, item = .map inner := by
  obtain ⟨_, _, _, _, _, _, relationships, _⟩ := read_map_iff.mp run
  rw [defaulted_eq_valid_iff, found] at relationships
  rcases relationships with ⟨impossible, _⟩ | ⟨_, same, read⟩
  · cases impossible
  cases same
  obtain ⟨items, shape, paired⟩ := readList_eq_valid_iff.mp read
  refine ⟨items, shape, ?_⟩
  clear shape read found run
  generalize entity.relationships = values at paired
  induction paired with
  | nil => exact fun _ none => absurd none List.not_mem_nil
  | cons here _ ih => exact List.forall_mem_cons.mpr ⟨Relationship.read_eq_valid here, ih⟩

/-- Entities make a model exactly if they are those of one. -/
theorem EntityModel.ofEntities_eq_valid_iff {entities : List Entity} {model : EntityModel} :
    ofEntities entities = .valid model ↔ entities = model.entities := by
  rw [ofEntities]
  split
  next distinct =>
    constructor
    · intro made
      cases made
      rfl
    · rintro rfl
      rfl
  next clash =>
    constructor
    · intro impossible
      cases impossible
    · rintro rfl
      exact absurd model.distinct clash

/-- The entities of a model are read one by one. -/
theorem EntityModel.readEntities_iff {items : List Data} {entities : List Entity} :
    withNothingElse
        (defaulted "entities" [] (readList Entity.read) [(.text "entities", .list items)])
        (fieldNames ["entities"]) [(.text "entities", .list items)] = .valid entities ↔
      List.Forall₂ (fun item entity => Entity.read item = .valid entity) items entities := by
  have found : Data.lookup? "entities" [(.text "entities", .list items)] = some (.list items) := rfl
  have nothingElse : closed (fieldNames ["entities"]) [(.text "entities", .list items)] =
      .valid () :=
    closed_fieldNames_iff.mpr (List.forall_mem_singleton.mpr ⟨"entities", by simp, rfl⟩)
  have listed : readList Entity.read (.list items) = .valid entities ↔
      List.Forall₂ (fun item entity => Entity.read item = .valid entity) items entities :=
    items_eq_valid_iff
  simp [withNothingElse_eq_valid_iff, nothingElse, defaulted_eq_valid_iff, found, listed]

/-- With entities that can be read, only the entities decide if there is a model. -/
theorem EntityModel.read_object_eq {items : List Data} {entities : List Entity}
    (read : List.Forall₂ (fun item entity => Entity.read item = .valid entity) items entities) :
    EntityModel.read (Data.object [("entities", .list items)]) = ofEntities entities := by
  have entries : Data.object [("entities", .list items)] =
      .map [(.text "entities", .list items)] := rfl
  rw [EntityModel.read, entries, readEntries, andThen, readEntities_iff.mpr read, andThen]

/-- A model is read from a list of entities. -/
theorem EntityModel.read_object_iff {items : List Data} {model : EntityModel} :
    EntityModel.read (Data.object [("entities", .list items)]) = .valid model ↔
      List.Forall₂ (fun item entity => Entity.read item = .valid entity) items model.entities := by
  have entries : Data.object [("entities", .list items)] =
      .map [(.text "entities", .list items)] := rfl
  rw [EntityModel.read, entries, readEntries, andThen, andThen_eq_valid_iff]
  simp [readEntities_iff, ofEntities_eq_valid_iff]

end EntityForge
