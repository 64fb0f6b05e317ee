import EntityForge.Model.Basic
import EntityForge.TypeName.Reader

/-!
# Printed member types

How the type of a scalar property is printed.  A property that is known to be nullable gets the
nullable marker; a reference type that is not gets a default that silences the compiler when
nullable reference types are enabled; everything else is printed plainly.
-/

namespace EntityForge

/-- The mark behind a nullable type. -/
def nullableMarker : Text := "?"

/-- The initializer of a member that the database fills. -/
def nonNullDefault : Text := "null!"

/-- The type of a member as it is printed. -/
structure ProjectedType where
  base : TypeTree
  isMarked : Bool := false
  needsNonNullDefault : Bool := false
  deriving BEq, Repr

namespace ProjectedType

/-- The text of the type. -/
def printed (type : ProjectedType) : Text :=
  type.base.print ++ if type.isMarked then nullableMarker else ""

/-- The initializer that the type requires. -/
def initializer (type : ProjectedType) : Option Text :=
  if type.needsNonNullDefault then some nonNullDefault else none

end ProjectedType

namespace SystemType

/-- Whether a type is a value type: as declared, else by the table of known value types. -/
def isValue (type : SystemType) : Except TypeFault Bool :=
  match type.isValueType with
  | some declared => .ok declared
  | none => (TypeName.canonical type.name).map TypeName.valueTypes.contains

/-- Decides how a property of this type is printed. -/
def project (type : SystemType) (isNullable : Option Bool) (nullableMode : Bool) :
    Except TypeFault ProjectedType := do
  let base ← TypeName.read type.name
  if isNullable == some true then
    return ⟨base, true, false⟩
  let value ← type.isValue
  return ⟨base, false, !value && nullableMode⟩

end SystemType

end EntityForge
