import EntityForge.Proofs.Model.Reader
import EntityForge.Proofs.Text.Utf8

/-!
# Reading dumped models

The data form of a model value without the computed entries is read as that value again.  There is
one proviso: a property with a name must have a column, for an empty column name is filled when it
is read.  Whatever was read has its columns filled.
-/

namespace EntityForge

open EntityForge.Schema
open EntityForge.Schema.Checked

/-! ## Computed entries -/

namespace Data

/-- The names under which computed values are dumped. -/
def computedNames : List Text :=
  ["full_name", "is_collection", "base_class_mode", "entity_count"]

/-- Whether a key is the name of a computed value. -/
def isComputed : Data → Bool
  | .text name => computedNames.contains name
  | _ => false

mutual

/-- A value without the computed entries of its mappings. -/
def withoutComputed : Data → Data
  | .list items => .list (itemsWithoutComputed items)
  | .map entries => .map (entriesWithoutComputed entries)
  | data => data

/-- The items of a list without computed entries. -/
def itemsWithoutComputed : List Data → List Data
  | [] => []
  | item :: rest => item.withoutComputed :: itemsWithoutComputed rest

/-- The entries of a mapping that are not computed. -/
def entriesWithoutComputed : List (Data × Data) → List (Data × Data)
  | [] => []
  | (key, value) :: rest =>
      if key.isComputed then entriesWithoutComputed rest
      else (key, value.withoutComputed) :: entriesWithoutComputed rest

end

theorem itemsWithoutComputed_map {α : Type} (dump : α → Data) (values : List α) :
    itemsWithoutComputed (values.map dump) =
      values.map fun value => (dump value).withoutComputed := by
  induction values with
  | nil => rfl
  | cons value rest ih => rw [List.map_cons, itemsWithoutComputed, ih, List.map_cons]

/-- A mapping made of fields keeps those that are not computed. -/
theorem withoutComputed_object (fields : List (Text × Data)) :
    (object fields).withoutComputed =
      object ((fields.filter fun field => !computedNames.contains field.1).map fun field =>
        (field.1, field.2.withoutComputed)) := by
  rw [object, withoutComputed, object]
  congr 1
  induction fields with
  | nil => rfl
  | cons field rest ih =>
      rw [List.map_cons, entriesWithoutComputed, isComputed, ih, List.filter_cons]
      cases computedNames.contains field.1 with
      | true => rfl
      | false => rfl

end Data

/-! ## Scalars -/

/-- A text is read from a value that counts as present exactly if it is not empty. -/
theorem isTruthy_iff_of_readText {data : Data} {text : Text}
    (read : readText data = .valid text) : data.isTruthy = true ↔ text ≠ "" := by
  cases data with
  | text value =>
      cases read
      simp [Data.isTruthy]
  | bytes value =>
      rw [readText] at read
      split at read
      next decoded run =>
        cases read
        have filled := Text.Utf8.ne_nil_iff_of_decode run
        simpa [Data.isTruthy] using filled
      next => cases read
  | _ => cases read

theorem readOptional_ofText? (value : Option Text) :
    readOptional readText (.ofText? value) = .valid value := by
  cases value <;> rfl

theorem readOptional_ofBool? (value : Option Bool) :
    readOptional readBool (.ofBool? value) = .valid value := by
  cases value <;> rfl

theorem Cardinality.read_spelling (cardinality : Cardinality) :
    Cardinality.read (.text cardinality.spelling) = .valid cardinality := by
  cases cardinality <;> rfl

/-- The values of a list are read if each of them is. -/
theorem readList_map {α : Type} {read : Data → Checked α} {dump : α → Data} {values : List α}
    (each : ∀ value ∈ values, read (dump value) = .valid value) :
    readList read (.list (values.map dump)) = .valid values := by
  rw [readList_eq_valid_iff]
  refine ⟨_, .inl rfl, ?_⟩
  rw [List.forall₂_map_left_iff, List.forall₂_same]
  exact each

theorem readList_texts (values : List Text) :
    readList readText (.list (values.map .text)) = .valid values :=
  readList_map fun _ _ => rfl

/-! ## Records -/

/-- A mapping made of fields has no keys but their names. -/
theorem closed_object {names : List Text} {fields : List (Text × Data)}
    (same : fields.map Prod.fst = names) :
    closed (fieldNames names) (fields.map fun field => (.text field.1, field.2)) = .valid () := by
  rw [closed_fieldNames_iff, List.forall_mem_map]
  intro field member
  exact ⟨field.1, same ▸ List.mem_map_of_mem member, rfl⟩

theorem SystemType.read_dump (type : SystemType) :
    SystemType.read (SystemType.expand type.dump) = .valid type := by
  cases type with
  | mk name isValueType => cases isValueType <;> rfl

theorem EntityReference.read_dump (reference : EntityReference) :
    EntityReference.read (EntityReference.expand reference.dump.withoutComputed) =
      .valid reference :=
  rfl

namespace Relationship

theorem withoutComputed_dump (relationship : Relationship) :
    relationship.dump.withoutComputed =
      .object (relationship.fields relationship.primaryEntity.dump.withoutComputed) := by
  rw [dump, Data.withoutComputed_object]
  simp [fields, Data.computedNames, Data.withoutComputed, Data.itemsWithoutComputed_map]

/-- The fields of a relationship are read as that relationship around any target that is read. -/
theorem read_fields (relationship : Relationship) {target : Data} {reference : EntityReference}
    (run : EntityReference.read (EntityReference.expand target) = .valid reference) :
    Relationship.read (.object (relationship.fields target)) =
      .valid { relationship with primaryEntity := reference } := by
  let entries := (relationship.fields target).map fun field => (Data.text field.1, field.2)
  have name : required "property_name" readText entries = .valid relationship.propertyName := rfl
  have cardinality : defaulted "cardinality" .one Cardinality.read entries =
      .valid relationship.cardinality :=
    defaulted_eq_valid_iff.mpr (.inr ⟨_, rfl, Cardinality.read_spelling _⟩)
  have pointsAt : required "primary_entity"
      (fun target => EntityReference.read (EntityReference.expand target)) entries =
        .valid reference :=
    required_eq_valid_iff.mpr ⟨target, rfl, run⟩
  have properties : defaulted "properties" [] (readList readText) entries =
      .valid relationship.properties :=
    defaulted_eq_valid_iff.mpr (.inr ⟨_, rfl, readList_texts _⟩)
  have shape : Data.object (relationship.fields target) = .map entries := rfl
  rw [shape, Relationship.read, readEntries, andThen, withNothingElse_eq_valid_iff, name,
    cardinality, pointsAt, properties]
  exact ⟨rfl, closed_object rfl⟩

theorem read_dump (relationship : Relationship) :
    Relationship.read relationship.dump.withoutComputed = .valid relationship := by
  rw [withoutComputed_dump, read_fields relationship (EntityReference.read_dump _)]

end Relationship

namespace Property

/-- Whether a property with a name has a column. -/
def IsFilled (property : Property) : Prop :=
  property.propertyName ≠ "" → property.columnName ≠ ""

theorem withoutComputed_dump (property : Property) :
    property.dump.withoutComputed = property.dump := by
  cases property with
  | mk propertyName columnName systemType isNullable isPrimaryKey =>
      cases systemType with
      | mk name isValueType => cases isValueType <;> cases isNullable <;> rfl

/-- A column that is filled stays as it is. -/
theorem withDefaultColumn_eq_self {entries : List (Data × Data)} {propertyName columnName : Text}
    (name : Data.lookup? "property_name" entries = some (.text propertyName))
    (column : Data.lookup? "column_name" entries = some (.text columnName))
    (filled : propertyName ≠ "" → columnName ≠ "") : withDefaultColumn entries = entries := by
  have kept : (!(Data.lookup? "column_name" entries).any Data.isTruthy &&
      (Data.text propertyName).isTruthy) = false := by
    rw [column]
    simpa [Data.isTruthy, imp_iff_not_or, or_comm] using filled
  rw [withDefaultColumn, name]
  exact if_neg (Bool.eq_false_iff.mp kept)

theorem read_dump {property : Property} (filled : property.IsFilled) :
    Property.read property.dump.withoutComputed = .valid property := by
  let fields : List (Text × Data) :=
    [ ("property_name", .text property.propertyName), ("column_name", .text property.columnName),
      ("system_type", property.systemType.dump), ("is_nullable", .ofBool? property.isNullable),
      ("is_primary_key", .bool property.isPrimaryKey) ]
  let entries := fields.map fun field => (Data.text field.1, field.2)
  have name : required "property_name" readText entries = .valid property.propertyName := rfl
  have column : defaulted "column_name" ("" : Text) readText entries =
      .valid property.columnName := rfl
  have type : required "system_type" (fun type => SystemType.read (SystemType.expand type))
      entries = .valid property.systemType :=
    required_eq_valid_iff.mpr ⟨_, rfl, SystemType.read_dump _⟩
  have nullable : defaulted "is_nullable" none (readOptional readBool) entries =
      .valid property.isNullable :=
    defaulted_eq_valid_iff.mpr (.inr ⟨_, rfl, readOptional_ofBool? _⟩)
  have key : defaulted "is_primary_key" false readBool entries = .valid property.isPrimaryKey := rfl
  have whole : withDefaultColumn entries = entries := withDefaultColumn_eq_self rfl rfl filled
  have shape : property.dump = .map entries := rfl
  rw [withoutComputed_dump, shape, Property.read, readEntries, andThen]
  simp only [whole]
  rw [withNothingElse_eq_valid_iff, name, column, type, nullable, key]
  exact ⟨rfl, closed_object rfl⟩

/-- The default leaves a column that counts as present, if the name does. -/
theorem lookup?_withDefaultColumn {given : List (Data × Data)} {name : Data}
    (found : Data.lookup? "property_name" (withDefaultColumn given) = some name)
    (named : name.isTruthy = true) :
    ∃ column, Data.lookup? "column_name" (withDefaultColumn given) = some column ∧
      column.isTruthy = true := by
  have kept : Data.lookup? "property_name" (withDefaultColumn given) =
      Data.lookup? "property_name" given := by
    rw [withDefaultColumn]
    split
    next =>
      split
      next => exact Data.lookup?_assign_of_ne (by decide) _ _
      next => rfl
    next => rfl
  have declared := kept.symm.trans found
  rw [withDefaultColumn, declared]
  simp only [named, Bool.and_true]
  cases present : (Data.lookup? "column_name" given).any Data.isTruthy with
  | true =>
      obtain ⟨column, same, truthy⟩ := (Option.any_eq_true _ _).mp present
      exact ⟨column, same, truthy⟩
  | false => exact ⟨name, Data.lookup?_assign_self _ _ _, named⟩

/-- Name and column of a property are read after the default. -/
theorem read_names {data : Data} {property : Property}
    (read : Property.read data = .valid property) :
    ∃ given, required "property_name" readText (withDefaultColumn given) =
        .valid property.propertyName ∧
      defaulted "column_name" ("" : Text) readText (withDefaultColumn given) =
        .valid property.columnName := by
  obtain ⟨given, _, run⟩ := andThen_eq_valid_iff.mp read
  obtain ⟨fields, _⟩ := withNothingElse_eq_valid_iff.mp run
  simp only [seq_eq_valid_iff, map_eq_valid_iff] at fields
  obtain ⟨_, ⟨_, ⟨_, ⟨_, ⟨name, named, rfl⟩, column, filed, rfl⟩, _, _, rfl⟩, _, _, rfl⟩,
    _, _, rfl⟩ := fields
  exact ⟨given, named, filed⟩

/-- A property that was read has a column if it has a name. -/
theorem isFilled_of_read {data : Data} {property : Property}
    (read : Property.read data = .valid property) : property.IsFilled := by
  intro filled
  obtain ⟨given, named, filed⟩ := read_names read
  obtain ⟨name, found, isName⟩ := required_eq_valid_iff.mp named
  obtain ⟨column, present, truthy⟩ :=
    lookup?_withDefaultColumn found ((isTruthy_iff_of_readText isName).mpr filled)
  rcases defaulted_eq_valid_iff.mp filed with ⟨absent, _⟩ | ⟨_, same, isColumn⟩
  · cases present.symm.trans absent
  · cases present.symm.trans same
    exact (isTruthy_iff_of_readText isColumn).mp truthy

end Property

namespace Entity

theorem withoutComputed_dump (entity : Entity) :
    entity.dump.withoutComputed =
      .object (entity.fields (entity.relationships.map fun relationship =>
        relationship.dump.withoutComputed)) := by
  have base : (Data.ofText? entity.entityBaseClass).withoutComputed =
      .ofText? entity.entityBaseClass := by
    cases entity.entityBaseClass <;> rfl
  have schema : (Data.ofText? entity.tableSchema).withoutComputed =
      .ofText? entity.tableSchema := by
    cases entity.tableSchema <;> rfl
  rw [dump, Data.withoutComputed_object]
  simp [fields, Data.computedNames, Data.withoutComputed, Data.itemsWithoutComputed_map, base,
    schema, Property.withoutComputed_dump]

theorem read_dump {entity : Entity} (filled : ∀ property ∈ entity.properties, property.IsFilled) :
    Entity.read entity.dump.withoutComputed = .valid entity := by
  let relationships := entity.relationships.map fun relationship =>
    relationship.dump.withoutComputed
  let entries := (entity.fields relationships).map fun field => (Data.text field.1, field.2)
  have shape : entity.dump.withoutComputed = .map entries := withoutComputed_dump entity
  rw [shape, read_map_iff]
  refine ⟨rfl, rfl, ?_, rfl, ?_, ?_, ?_, ?_⟩
  · exact defaulted_eq_valid_iff.mpr (.inr ⟨_, rfl, readOptional_ofText? _⟩)
  · exact defaulted_eq_valid_iff.mpr (.inr ⟨_, rfl, readOptional_ofText? _⟩)
  · refine defaulted_eq_valid_iff.mpr (.inr ⟨_, rfl, readList_map ?_⟩)
    intro property member
    rw [← property.withoutComputed_dump]
    exact Property.read_dump (filled property member)
  · exact defaulted_eq_valid_iff.mpr (.inr ⟨_, rfl, readList_map fun relationship _ =>
      relationship.read_dump⟩)
  · exact closed_fieldNames_iff.mp (closed_object rfl)

/-- The properties of an entity that was read have columns if they have names. -/
theorem isFilled_of_read {data : Data} {entity : Entity} (read : Entity.read data = .valid entity) :
    ∀ property ∈ entity.properties, property.IsFilled := by
  obtain ⟨entries, rfl⟩ := read_eq_valid read
  obtain ⟨_, _, _, _, _, properties, _⟩ := read_map_iff.mp read
  rcases defaulted_eq_valid_iff.mp properties with ⟨_, none⟩ | ⟨_, _, listed⟩
  · rw [none]
    exact fun _ impossible => absurd impossible List.not_mem_nil
  · obtain ⟨items, _, paired⟩ := readList_eq_valid_iff.mp listed
    intro property member
    obtain ⟨item, run⟩ := exists_of_forall₂ paired.flip member
    exact Property.isFilled_of_read run

end Entity

namespace GeneratorOptions

/-- An extension that was read is read again as it is. -/
theorem readExtension_fileExtension (options : GeneratorOptions) :
    readExtension (.text options.fileExtension) =
      .valid ⟨options.fileExtension, options.fileExtension_dotted,
        options.fileExtension_encodable⟩ := by
  have filled : ¬options.fileExtension.isEmpty = true := by
    intro empty
    have dotted := options.fileExtension_dotted
    rw [Text.isEmpty_iff.mp empty] at dotted
    cases dotted
  simp only [readExtension, readText, andThen, if_neg filled, dotted,
    dif_pos options.fileExtension_dotted, dif_pos options.fileExtension_encodable]

theorem read_dump (options : GeneratorOptions) :
    GeneratorOptions.read options.dump.withoutComputed = .valid options := by
  let entries : List (Data × Data) :=
    [ (.text "document", .bool options.document),
      (.text "file_scoped_namespace", .bool options.fileScopedNamespace),
      (.text "nullable", .bool options.nullable), (.text "indent_size", .int options.indentSize),
      (.text "file_extension", .text options.fileExtension) ]
  have document : defaultedAs ["document", "Document"] false readBool entries =
      .valid options.document := rfl
  have fileScoped : defaultedAs ["file_scoped_namespace", "FileScopedNamespace"] false readBool
      entries = .valid options.fileScopedNamespace := rfl
  have nullable : defaultedAs ["nullable", "Nullable"] false readBool entries =
      .valid options.nullable := rfl
  have size : defaulted "indent_size" ⟨4, by decide⟩ readIndentSize entries =
      .valid ⟨options.indentSize, options.indentSize_range⟩ :=
    defaulted_eq_valid_iff.mpr (.inr ⟨_, rfl, dif_pos options.indentSize_range⟩)
  have extension : defaulted "file_extension" ⟨".cs", by decide⟩ readExtension entries =
      .valid ⟨options.fileExtension, options.fileExtension_dotted,
        options.fileExtension_encodable⟩ :=
    defaulted_eq_valid_iff.mpr (.inr ⟨_, rfl, readExtension_fileExtension options⟩)
  have shape : options.dump.withoutComputed = .map entries := rfl
  rw [shape, GeneratorOptions.read, readEntries, andThen, withNothingElse_eq_valid_iff, document,
    fileScoped, nullable, size, extension]
  exact ⟨rfl, rfl⟩

end GeneratorOptions

end EntityForge
