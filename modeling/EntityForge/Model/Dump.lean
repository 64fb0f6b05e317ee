import EntityForge.Data.Basic
import EntityForge.Model.Describe

/-!
# Models as data

The data form of a model value: its fields under their names in model files, followed by what is
computed from them.  Without the computed entries the form can be read back.
-/

namespace EntityForge

/-- An optional text as data. -/
def Data.ofText? : Option Text → Data
  | none => .null
  | some value => .text value

/-- An optional truth value as data. -/
def Data.ofBool? : Option Bool → Data
  | none => .null
  | some value => .bool value

def SystemType.dump (type : SystemType) : Data :=
  .object [("name", .text type.name), ("is_value_type", .ofBool? type.isValueType)]

def Property.dump (property : Property) : Data :=
  .object
    [ ("property_name", .text property.propertyName),
      ("column_name", .text property.columnName),
      ("system_type", property.systemType.dump),
      ("is_nullable", .ofBool? property.isNullable),
      ("is_primary_key", .bool property.isPrimaryKey) ]

/-- The fields that a reference is read from. -/
def EntityReference.fields (reference : EntityReference) : List (Text × Data) :=
  [ ("entity_namespace", .text reference.entityNamespace),
    ("entity_class", .text reference.entityClass) ]

def EntityReference.dump (reference : EntityReference) : Data :=
  .object (reference.fields ++ ([("full_name", .text reference.fullName)] : List (Text × Data)))

/-- The fields that a relationship is read from, around the data form of its target. -/
def Relationship.fields (relationship : Relationship) (target : Data) : List (Text × Data) :=
  [ ("property_name", .text relationship.propertyName),
    ("cardinality", .text relationship.cardinality.spelling),
    ("primary_entity", target),
    ("properties", .list (relationship.properties.map .text)) ]

def Relationship.dump (relationship : Relationship) : Data :=
  .object (relationship.fields relationship.primaryEntity.dump ++
    ([("is_collection", .bool relationship.isCollection)] : List (Text × Data)))

/-- The fields that an entity is read from, around the data form of its relationships. -/
def Entity.fields (entity : Entity) (relationships : List Data) : List (Text × Data) :=
  [ ("entity_namespace", .text entity.entityNamespace),
    ("entity_class", .text entity.entityClass),
    ("entity_base_class", .ofText? entity.entityBaseClass),
    ("table_name", .text entity.tableName),
    ("table_schema", .ofText? entity.tableSchema),
    ("properties", .list (entity.properties.map Property.dump)),
    ("relationships", .list relationships) ]

def Entity.dump (entity : Entity) : Data :=
  .object (entity.fields (entity.relationships.map Relationship.dump) ++
    ([("base_class_mode", .text entity.baseClassMode.spelling)] : List (Text × Data)))

def EntityModel.dump (model : EntityModel) : Data :=
  .object
    [ ("entities", .list (model.entities.map Entity.dump)),
      ("entity_count", .int model.entities.length) ]

def GeneratorOptions.dump (options : GeneratorOptions) : Data :=
  .object
    [ ("document", .bool options.document),
      ("file_scoped_namespace", .bool options.fileScopedNamespace),
      ("nullable", .bool options.nullable),
      ("indent_size", .int options.indentSize),
      ("file_extension", .text options.fileExtension) ]

end EntityForge
