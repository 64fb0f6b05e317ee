import EntityForge.Model.Reader

/-!
# Editing entities

Single fields of an entity or of its parts are replaced after reading.  A new value is checked like
one in a model file, and a refused edit changes nothing.
-/

namespace EntityForge

open EntityForge.Schema

/-- One step on the way to an edited part.  Negative positions count from the end. -/
inductive EditStep where
  | field (name : Text)
  | position (index : Int)
  deriving BEq, DecidableEq, Repr

/-- Why an edit was refused. -/
inductive EditFault where
  | invalid (record : Text) (issues : List Issue)
  /-- A field that is computed from others. -/
  | computed (record name : Text)
  | noField (kind name : Text)
  | noPositions (kind : Text)
  /-- A position where the name of a field is expected. -/
  | notAName
  | outOfRange
  | popFromEmpty
  | popOutOfRange
  deriving Repr

/-- The wording of a fault. -/
def EditFault.message : EditFault → Text
  | .invalid record issues => headline record issues
  | .computed record name => "property '" ++ name ++ "' of '" ++ record ++ "' object has no setter"
  | .noField kind name => "'" ++ kind ++ "' object has no attribute '" ++ name ++ "'"
  | .noPositions kind => "'" ++ kind ++ "' object is not subscriptable"
  | .notAName => "attribute name must be string, not 'int'"
  | .outOfRange => "list index out of range"
  | .popFromEmpty => "pop from empty list"
  | .popOutOfRange => "pop index out of range"

/-- Replaces the field of a record by a value that must be readable. -/
def replaced {α β : Type} (record name : Text) (read : Data → Checked α) (value : Data)
    (update : α → β) : Except EditFault β :=
  match (read value).under (.key name) with
  | .valid value => .ok (update value)
  | .invalid issues => .error (.invalid record issues)

/-- The outcome of setting a field that a record does not have.  Names with an underscore in front
are outside the record, so nothing happens to it. -/
def setOther {α : Type} (record : Text) (computed : List Text) (unchanged : α)
    (name : Text) : Except EditFault α :=
  if name.toList.head? == some (.scalar '_') then .ok unchanged
  else if (computed ++ ([ "model_extra", "model_fields_set" ] : List Text)).contains name then
    .error (.computed record name)
  else .error (.invalid record [⟨.noSuchAttribute name, [.key name]⟩])

/-- The outcome of going on from a value without parts. -/
def noParts {α : Type} (kind : Text) : List EditStep → Except EditFault α
  | .field name :: _ => .error (.noField kind name)
  | [.position _] => .error .notAName
  | .position _ :: _ => .error (.noPositions kind)
  | [] => .error .outOfRange

/-- A position in a list of some length, counted from its start. -/
def position? (length : Nat) (index : Int) : Option Nat :=
  let fromStart := if index < 0 then index + length else index
  if 0 ≤ fromStart && fromStart < length then some fromStart.toNat else none

/-- Edits the item at a position. -/
def editItem {α : Type} (edit : α → Except EditFault α) (items : List α) (index : Int) :
    Except EditFault (List α) :=
  match position? items.length index with
  | none => .error .outOfRange
  | some position =>
      match items[position]? with
      | none => .error .outOfRange
      | some item => (edit item).map (items.set position)

/-- Takes the item at a position out of a list. -/
def popItem {α : Type} (items : List α) (index : Int) : Except EditFault (α × List α) :=
  if items.isEmpty then .error .popFromEmpty
  else
    match (position? items.length index).bind fun position =>
        items[position]?.map (·, items.eraseIdx position) with
    | some result => .ok result
    | none => .error .popOutOfRange

/-- The kind of an optional value. -/
def optionalKind {α : Type} (kind : Text) (value : Option α) : Text :=
  if value.isSome then kind else "NoneType"

namespace SystemType

/-- Sets a field. -/
def set (type : SystemType) (name : Text) (value : Data) : Except EditFault SystemType :=
  match name.string? with
  | some "name" => replaced "SystemType" name readText value ({ type with name := · })
  | some "is_value_type" =>
      replaced "SystemType" name (readOptional readBool) value ({ type with isValueType := · })
  | _ => setOther "SystemType" [] type name

/-- Sets the field at the end of a path. -/
def edit (type : SystemType) (path : List EditStep) (value : Data) :
    Except EditFault SystemType :=
  match path with
  | [.field name] => type.set name value
  | .field name :: rest =>
      match name.string? with
      | some "name" => noParts "str" rest
      | some "is_value_type" => noParts (optionalKind "bool" type.isValueType) rest
      | _ => noParts "SystemType" path
  | path => noParts "SystemType" path

end SystemType

namespace Property

/-- The property with a column name, which an empty one gets from the property name. -/
def refilled (property : Property) : Property :=
  if property.columnName.isEmpty then { property with columnName := property.propertyName }
  else property

/-- Sets a field.  An empty column name is filled at every edit, before the new value is put in. -/
def set (property : Property) (name : Text) (value : Data) : Except EditFault Property :=
  let refilled := property.refilled
  match name.string? with
  | some "property_name" =>
      replaced "Property" name readText value fun propertyName =>
        Property.refilled { property with propertyName }
  | some "column_name" =>
      replaced "Property" name readText value ({ property with columnName := · })
  | some "system_type" =>
      replaced "Property" name (fun type => SystemType.read (SystemType.expand type)) value
        ({ refilled with systemType := · })
  | some "is_nullable" =>
      replaced "Property" name (readOptional readBool) value ({ refilled with isNullable := · })
  | some "is_primary_key" =>
      replaced "Property" name readBool value ({ refilled with isPrimaryKey := · })
  | _ => setOther "Property" [] property name

/-- Sets the field at the end of a path. -/
def edit (property : Property) (path : List EditStep) (value : Data) :
    Except EditFault Property :=
  match path with
  | [.field name] => property.set name value
  | .field name :: rest =>
      match name.string? with
      | some "system_type" =>
          (property.systemType.edit rest value).map ({ property with systemType := · })
      | some "property_name" | some "column_name" => noParts "str" rest
      | some "is_nullable" => noParts (optionalKind "bool" property.isNullable) rest
      | some "is_primary_key" => noParts "bool" rest
      | _ => noParts "Property" path
  | path => noParts "Property" path

end Property

namespace EntityReference

/-- Sets a field. -/
def set (reference : EntityReference) (name : Text) (value : Data) :
    Except EditFault EntityReference :=
  match name.string? with
  | some "entity_namespace" =>
      replaced "EntityReference" name readText value ({ reference with entityNamespace := · })
  | some "entity_class" =>
      replaced "EntityReference" name readText value ({ reference with entityClass := · })
  | _ => setOther "EntityReference" ["full_name"] reference name

/-- Sets the field at the end of a path. -/
def edit (reference : EntityReference) (path : List EditStep) (value : Data) :
    Except EditFault EntityReference :=
  match path with
  | [.field name] => reference.set name value
  | .field name :: rest =>
      match name.string? with
      | some "entity_namespace" | some "entity_class" | some "full_name" => noParts "str" rest
      | _ => noParts "EntityReference" path
  | path => noParts "EntityReference" path

end EntityReference

namespace Relationship

/-- Sets a field. -/
def set (relationship : Relationship) (name : Text) (value : Data) :
    Except EditFault Relationship :=
  match name.string? with
  | some "property_name" =>
      replaced "Relationship" name readText value ({ relationship with propertyName := · })
  | some "cardinality" =>
      replaced "Relationship" name Cardinality.read value
        ({ relationship with cardinality := · })
  | some "primary_entity" =>
      replaced "Relationship" name
        (fun target => EntityReference.read (EntityReference.expand target)) value
        ({ relationship with primaryEntity := · })
  | some "properties" =>
      replaced "Relationship" name (readList readText) value
        ({ relationship with properties := · })
  | _ => setOther "Relationship" ["is_collection"] relationship name

/-- Sets the field at the end of a path. -/
def edit (relationship : Relationship) (path : List EditStep) (value : Data) :
    Except EditFault Relationship :=
  match path with
  | [.field name] => relationship.set name value
  | .field name :: rest =>
      match name.string?, rest with
      | some "primary_entity", rest =>
          (relationship.primaryEntity.edit rest value).map
            ({ relationship with primaryEntity := · })
      | some "properties", [.position _] => .error .notAName
      | some "properties", .position index :: rest =>
          (editItem (fun _ => noParts "str" rest) relationship.properties index).map fun _ =>
            relationship
      | some "properties", rest => noParts "list" rest
      | some "property_name", rest => noParts "str" rest
      | some "cardinality", rest => noParts "Cardinality" rest
      | some "is_collection", rest => noParts "bool" rest
      | _, _ => noParts "Relationship" path
  | path => noParts "Relationship" path

end Relationship

namespace Entity

/-- Sets a field. -/
def set (entity : Entity) (name : Text) (value : Data) : Except EditFault Entity :=
  match name.string? with
  | some "entity_namespace" =>
      replaced "Entity" name readText value ({ entity with entityNamespace := · })
  | some "entity_class" => replaced "Entity" name readText value ({ entity with entityClass := · })
  | some "entity_base_class" =>
      replaced "Entity" name (readOptional readText) value ({ entity with entityBaseClass := · })
  | some "table_name" => replaced "Entity" name readText value ({ entity with tableName := · })
  | some "table_schema" =>
      replaced "Entity" name (readOptional readText) value ({ entity with tableSchema := · })
  | some "properties" =>
      replaced "Entity" name (readList Property.read) value ({ entity with properties := · })
  | some "relationships" =>
      replaced "Entity" name (readList Relationship.read) value
        ({ entity with relationships := · })
  | _ => setOther "Entity" ["base_class_mode"] entity name

/-- Sets the field at the end of a path. -/
def edit (entity : Entity) (path : List EditStep) (value : Data) : Except EditFault Entity :=
  match path with
  | [.field name] => entity.set name value
  | .field name :: rest =>
      match name.string?, rest with
      | some "properties", [.position _] | some "relationships", [.position _] =>
          .error .notAName
      | some "properties", .position index :: rest =>
          (editItem (·.edit rest value) entity.properties index).map
            ({ entity with properties := · })
      | some "relationships", .position index :: rest =>
          (editItem (·.edit rest value) entity.relationships index).map
            ({ entity with relationships := · })
      | some "properties", rest | some "relationships", rest => noParts "list" rest
      | some "entity_namespace", rest | some "entity_class", rest | some "table_name", rest =>
          noParts "str" rest
      | some "entity_base_class", rest =>
          noParts (optionalKind "str" entity.entityBaseClass) rest
      | some "table_schema", rest => noParts (optionalKind "str" entity.tableSchema) rest
      | some "base_class_mode", rest => noParts "BaseClassMode" rest
      | _, _ => noParts "Entity" path
  | path => noParts "Entity" path

/-- Adds a property at the end. -/
def addProperty (entity : Entity) (property : Property) : Entity :=
  { entity with properties := entity.properties ++ [property] }

/-- Adds a relationship at the end. -/
def addRelationship (entity : Entity) (relationship : Relationship) : Entity :=
  { entity with relationships := entity.relationships ++ [relationship] }

/-- The relationship of an entity to itself over all of its properties. -/
def selfLink (entity : Entity) (name cardinality : Data) : Checked Relationship :=
  (fun propertyName cardinality =>
    { propertyName, cardinality
      primaryEntity := entity.reference
      properties := entity.properties.map (·.propertyName) })
    <$> (readText name).under (.key "property_name")
    <*> (Cardinality.read cardinality).under (.key "cardinality")

/-- Takes out the property at a position. -/
def popProperty (entity : Entity) (index : Int) : Except EditFault (Property × Entity) :=
  (popItem entity.properties index).map fun (property, properties) =>
    (property, { entity with properties })

/-- Takes out the relationship at a position. -/
def popRelationship (entity : Entity) (index : Int) :
    Except EditFault (Relationship × Entity) :=
  (popItem entity.relationships index).map fun (relationship, relationships) =>
    (relationship, { entity with relationships })

end Entity

end EntityForge
