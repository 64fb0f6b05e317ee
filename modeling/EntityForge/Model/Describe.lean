import EntityForge.Model.Basic

/-!
# Short descriptions of entities

One-line descriptions of model values, for logs and interactive use.
-/

namespace EntityForge

/-- The spelling of a cardinality in model files. -/
def Cardinality.spelling : Cardinality → Text
  | .zeroOrOne => "zero_or_one"
  | .one => "one"
  | .many => "many"

/-- The spelling of a base class mode. -/
def BaseClassMode.spelling : BaseClassMode → Text
  | .noBase => "no_base"
  | .withBase => "with_base"

def SystemType.describe (type : SystemType) : Text :=
  "<SystemType " ++ type.name ++ ">"

/-- The property with its type, marked when it is known to be nullable. -/
def Property.describe (property : Property) : Text :=
  let mark := if property.isNullable == some true then "?" else ""
  ("<Property " ++ property.propertyName ++ ": " ++ property.systemType.name ++ mark ++ ">")

def EntityReference.describe (reference : EntityReference) : Text :=
  "<EntityReference " ++ reference.fullName ++ ">"

def Relationship.describe (relationship : Relationship) : Text :=
  "<Relationship " ++ relationship.propertyName ++ " -> " ++
    relationship.primaryEntity.fullName ++ " (" ++ relationship.cardinality.spelling ++ ")>"

/-- The entity with the numbers of its members. -/
def Entity.describe (entity : Entity) : Text :=
  "<Entity " ++ entity.entityNamespace ++ "." ++ entity.entityClass ++ " " ++
    s!"props={entity.properties.length} rels={entity.relationships.length}>"

def EntityModel.describe (model : EntityModel) : Text :=
  s!"<EntityModel entities={model.entities.length}>"

end EntityForge
