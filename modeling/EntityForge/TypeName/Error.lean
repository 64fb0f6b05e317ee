import EntityForge.TypeName.Basic

/-!
# Unsupported types

The error for a member whose type cannot be printed, and where it was found.
-/

namespace EntityForge

/-- A refused type name with the entity and the property that it belongs to, where known. -/
structure UnsupportedType where
  fault : TypeFault
  entityName : Option Text := none
  propertyName : Option Text := none
  deriving BEq, DecidableEq, Repr

namespace UnsupportedType

/-- The same fault at a property of an entity. -/
def withContext (error : UnsupportedType) (entityName propertyName : Text) :
    UnsupportedType :=
  { error with entityName := some entityName, propertyName := some propertyName }

/-- Where the type was found.  A property without its entity is not named. -/
def location (error : UnsupportedType) : Text :=
  match error.entityName, error.propertyName with
  | some entity, some property => " for property '" ++ entity ++ "." ++ property ++ "'"
  | some entity, none => " in entity '" ++ entity ++ "'"
  | none, _ => ""

/-- The wording of the error. -/
def message (error : UnsupportedType) : Text :=
  let reason := error.fault.reason.text
  let detail := if reason.isEmpty then ("" : Text) else ": " ++ reason
  "Unsupported type '" ++ error.fault.typeName ++ "'" ++ error.location ++ detail

end UnsupportedType

end EntityForge
