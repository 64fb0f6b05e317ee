import EntityForge.Identifier
import EntityForge.Text.Units
import EntityForge.TypeName.Error
import EntityForge.TypeName.Projection
import EntityForge.Validation.Finding

/-!
# Members of a generated class

What each member of a class is, before it is written: scalars for properties, navigations for
relationships, and the adapters of the identity contract.  The kind of a member alone decides its
attribute and whether it is virtual.
-/

namespace EntityForge

/-- The names of library types that generated code refers to. -/
def attrAttribute : Text := "JsonApiDotNetCore.Resources.Annotations.AttrAttribute"

def hasOneAttribute : Text := "JsonApiDotNetCore.Resources.Annotations.HasOneAttribute"

def hasManyAttribute : Text := "JsonApiDotNetCore.Resources.Annotations.HasManyAttribute"

def identifiable : Text := "JsonApiDotNetCore.Resources.IIdentifiable"

def identifiableOfInt : Text := "JsonApiDotNetCore.Resources.IIdentifiable<int>"

def hashSet : Text := "System.Collections.Generic.HashSet"

def collection : Text := "System.Collections.Generic.ICollection"

/-- What a navigation to a single entity says about null. -/
inductive Nullness where
  /-- Nothing, since nullable reference types are off. -/
  | unstated
  | nullable
  | nonNull
  deriving BEq, DecidableEq, Repr

/-- A member of a generated class. -/
inductive Member where
  | scalar (name : Text) (type : ProjectedType) (column : Text)
  | toOne (name target : Text) (nullness : Nullness) (seeAlso : List Text)
  | toMany (name target : Text)
  /-- An explicit implementation of a property of an interface.  It ignores writes. -/
  | identityAdapter (name type interface getter : Text)
  deriving BEq, Repr

namespace Member

/-- The word for the kind of a member. -/
def role : Member → Text
  | .scalar .. => "scalar"
  | .toOne .. => "to_one"
  | .toMany .. => "to_many"
  | .identityAdapter .. => "identity_adapter"

def name : Member → Text
  | .scalar name .. | .toOne name .. | .toMany name .. | .identityAdapter name .. => name

/-- The type, without the marker of a nullable navigation. -/
def typeName : Member → Text
  | .scalar _ type _ => type.printed
  | .toOne _ target .. => target
  | .toMany _ target => collection ++ "<" ++ target ++ ">"
  | .identityAdapter _ type .. => type

/-- Whether a navigation is marked as nullable. -/
def isNullable : Member → Bool
  | .toOne _ _ nullness _ => nullness == .nullable
  | _ => false

def initializer : Member → Option Text
  | .scalar _ type _ => type.initializer
  | .toOne _ _ .nonNull _ => some nonNullDefault
  | _ => none

/-- The documented purpose, empty where a member is not documented. -/
def summary : Member → Text
  | .scalar _ _ column =>
      "Gets or sets the property value representing column '" ++ column ++ "'."
  | .toOne _ target .. =>
      "Gets or sets the navigation property for entity <see cref=\"" ++ target ++ "\" />."
  | .toMany _ target =>
      "Gets or sets the navigation collection for entity <see cref=\"" ++ target ++ "\" />."
  | .identityAdapter .. => ""

/-- The documented value, empty where a member is not documented. -/
def value : Member → Text
  | .scalar _ _ column => "The property value representing column '" ++ column ++ "'."
  | .toOne _ target .. => "The navigation property for entity <see cref=\"" ++ target ++ "\" />."
  | .toMany _ target => "The navigation collection for entity <see cref=\"" ++ target ++ "\" />."
  | .identityAdapter .. => ""

/-- The members that the documentation links to. -/
def seeAlso : Member → List Text
  | .toOne _ _ _ seeAlso => seeAlso
  | _ => []

/-- The interface that an adapter implements. -/
def interface : Member → Text
  | .identityAdapter _ _ interface _ => interface
  | _ => ""

/-- The expression that an adapter returns. -/
def getter : Member → Text
  | .identityAdapter _ _ _ getter => getter
  | _ => ""

/-- The attribute that exposes a member. -/
def attributeName : Member → Option Text
  | .scalar .. => some attrAttribute
  | .toOne .. => some hasOneAttribute
  | .toMany .. => some hasManyAttribute
  | .identityAdapter .. => none

/-- Navigations can be overridden by proxies. -/
def isVirtual : Member → Bool
  | .toOne .. | .toMany .. => true
  | _ => false

/-- The type as it stands in the declaration. -/
def declaredType (member : Member) : Text :=
  member.typeName ++ if member.isNullable then nullableMarker else ""

end Member

open EntityForge.Identifier

/-- The legal name of a referenced entity, with its namespace where it has one. -/
def EntityReference.qualifiedName (reference : EntityReference) : Text :=
  if reference.entityNamespace.isEmpty then safeName reference.entityClass
  else safeQualifiedName reference.entityNamespace ++ "." ++ safeName reference.entityClass

namespace Relationship

/-- Whether a relationship is listed before another one or has the same place: by member name,
then by target, both in ordinal order. -/
def listedBefore (left right : Relationship) : Bool :=
  if Text.units left.propertyName = Text.units right.propertyName then
    Text.ordinalLe left.primaryEntity.fullName right.primaryEntity.fullName
  else
    Text.ordinalLe left.propertyName right.propertyName

/-- Relationships in the order in which their members are listed. -/
def sorted (relationships : List Relationship) : List Relationship :=
  relationships.mergeSort listedBefore

/-- The member that navigates a relationship. -/
def member (relationship : Relationship) (nullableMode : Bool) : Member :=
  let name := safeName relationship.propertyName
  let target := relationship.primaryEntity.qualifiedName
  match relationship.cardinality with
  | .many => .toMany name target
  | .one =>
      .toOne name target (if nullableMode then .nonNull else .unstated)
        (relationship.properties.map safeName)
  | .zeroOrOne =>
      .toOne name target (if nullableMode then .nullable else .unstated)
        (relationship.properties.map safeName)

end Relationship

/-- The member for a property. -/
def Property.member (property : Property) (nullableMode : Bool) : Except TypeFault Member :=
  (property.systemType.project property.isNullable nullableMode).map fun type =>
    .scalar (safeName property.propertyName) type property.columnName

namespace Entity

/-- The members for the properties in their order, or the first type that cannot be printed. -/
def scalarMembers (entity : Entity) (nullableMode : Bool) :
    Except UnsupportedType (List Member) :=
  entity.properties.mapM fun property =>
    (property.member nullableMode).mapError fun fault =>
      UnsupportedType.withContext ⟨fault, none, none⟩ entity.entityClass property.propertyName

/-- The members for the relationships. -/
def navigationMembers (entity : Entity) (nullableMode : Bool) : List Member :=
  (Relationship.sorted entity.relationships).map (·.member nullableMode)

/-- What the constructor fills: each collection with the type of its elements. -/
def collectionInitializers (entity : Entity) : List (Text × Text) :=
  (Relationship.sorted (entity.relationships.filter Relationship.isCollection)).map
    fun relationship =>
      (safeName relationship.propertyName, relationship.primaryEntity.qualifiedName)

/-- The class name of the entity. -/
def className (entity : Entity) : Text :=
  safeName entity.entityClass

end Entity

/-- The adapters of the identity contract over the integer key.  Writes are ignored, since the key
is owned by the database. -/
def identityMembers (nullableMode : Bool) : List Member :=
  let text := if nullableMode then "string" ++ nullableMarker else "string"
  [ .identityAdapter "StringId" text identifiable (identityPropertyName ++ ".ToString()"),
    .identityAdapter "LocalId" text identifiable "null",
    .identityAdapter identityPropertyName "int" identifiableOfInt identityPropertyName ]

end EntityForge
