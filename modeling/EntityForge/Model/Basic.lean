import EntityForge.Text.Blank

/-!
# Entities

The metadata from which classes are generated: entities with their scalar properties and their
relationships to other entities, and the options that shape the code.  Options and models carry
the invariants that reading them establishes.
-/

namespace EntityForge

/-- The logical type of a property.  Whether it is a value type may be left open and is then
decided by its name. -/
structure SystemType where
  name : Text
  isValueType : Option Bool := none
  deriving BEq, DecidableEq, Repr

/-- A scalar column mapped onto a generated property. -/
structure Property where
  propertyName : Text
  columnName : Text := ""
  systemType : SystemType
  /-- Unknown when absent. -/
  isNullable : Option Bool := none
  isPrimaryKey : Bool := false
  deriving BEq, DecidableEq, Repr

/-- A pointer to an entity by namespace and class. -/
structure EntityReference where
  entityNamespace : Text := ""
  entityClass : Text
  deriving BEq, DecidableEq, Repr

/-- How many targets a relationship has, seen from the declaring entity. -/
inductive Cardinality where
  | zeroOrOne
  | one
  | many
  deriving BEq, DecidableEq, Repr

/-- A navigation property that points at another entity. -/
structure Relationship where
  propertyName : Text
  cardinality : Cardinality := .one
  primaryEntity : EntityReference
  /-- The foreign-key properties, for cross-links in the documentation. -/
  properties : List Text := []
  deriving BEq, DecidableEq, Repr

/-- How a generated class satisfies the identity contract. -/
inductive BaseClassMode where
  | noBase
  | withBase
  deriving BEq, DecidableEq, Repr

/-- The metadata of one generated class. -/
structure Entity where
  entityNamespace : Text
  entityClass : Text
  entityBaseClass : Option Text := none
  tableName : Text := ""
  tableSchema : Option Text := none
  properties : List Property := []
  relationships : List Relationship := []
  deriving BEq, DecidableEq, Repr

/-- The class and its namespace as one dotted name.  A reference without a namespace is the class
alone. -/
def EntityReference.fullName (reference : EntityReference) : Text :=
  if reference.entityNamespace.isEmpty then reference.entityClass
  else reference.entityNamespace ++ "." ++ reference.entityClass

/-- Whether a relationship has any number of targets. -/
def Relationship.isCollection (relationship : Relationship) : Bool :=
  relationship.cardinality == .many

namespace Entity

/-- The reference that points at an entity. -/
def reference (entity : Entity) : EntityReference :=
  ⟨entity.entityNamespace, entity.entityClass⟩

/-- The dotted name under which an entity is known in its model. -/
def dottedName (entity : Entity) : Text :=
  entity.entityNamespace ++ "." ++ entity.entityClass

/-- The base class, unless it is absent or blank. -/
def baseClass? (entity : Entity) : Option Text :=
  entity.entityBaseClass.filter fun name => !Text.isBlankText name

/-- Whether the class inherits from a base class. -/
def baseClassMode (entity : Entity) : BaseClassMode :=
  if entity.baseClass?.isSome then .withBase else .noBase

/-- The first property of a given name. -/
def property? (entity : Entity) (name : Text) : Option Property :=
  entity.properties.find? (·.propertyName == name)

/-- The raw names of all members: properties first, then relationships. -/
def memberNames (entity : Entity) : List Text :=
  entity.properties.map (·.propertyName) ++ entity.relationships.map (·.propertyName)

end Entity

/-- The settings for generated code. -/
structure GeneratorOptions where
  /-- Emit documentation comments. -/
  document : Bool := false
  /-- Use a namespace declaration without braces. -/
  fileScopedNamespace : Bool := false
  /-- The generated code is compiled with nullable reference types. -/
  nullable : Bool := false
  indentSize : Nat := 4
  fileExtension : Text := ".cs"
  indentSize_range : 1 ≤ indentSize ∧ indentSize ≤ 8 := by decide
  fileExtension_dotted : fileExtension.toList.head? = some (.scalar '.') := by decide
  fileExtension_encodable : fileExtension.isEncodable = true := by decide
  deriving DecidableEq, Repr

/-- All entities of one run.  No two have the same dotted name. -/
structure EntityModel where
  entities : List Entity := []
  distinct : (entities.map Entity.dottedName).Nodup := by simp
  deriving DecidableEq, Repr

/-- The first entity of a given class, whatever its namespace. -/
def EntityModel.entity? (model : EntityModel) (entityClass : Text) : Option Entity :=
  model.entities.find? (·.entityClass == entityClass)

end EntityForge
