import EntityForge.Decimal.Double
import EntityForge.Text.Basic

/-!
# Untyped data

The values that a model file may hold before it is read as a model: what JSON and YAML can say.
Mappings keep the order of their entries, and their keys may be any scalar.
-/

namespace EntityForge

/-- A day of the calendar. -/
structure Date where
  year : Nat
  month : Nat
  day : Nat
  deriving BEq, DecidableEq, Repr

/-- A day with a time of day.  The offset from universal time is in minutes; a moment without one
belongs to no time zone. -/
structure Moment where
  date : Date
  hour : Nat
  minute : Nat
  second : Nat
  microsecond : Nat
  offset : Option Int
  deriving BEq, DecidableEq, Repr

/-- An untyped value. -/
inductive Data where
  | null
  | bool (value : Bool)
  | int (value : Int)
  | float (value : Float)
  | text (value : Text)
  | bytes (value : List UInt8)
  | date (value : Date)
  | moment (value : Moment)
  | list (items : List Data)
  | tuple (items : List Data)
  | set (items : List Data)
  | map (entries : List (Data × Data))
  deriving Inhabited

namespace Data

/-- A mapping whose keys are texts. -/
def object (fields : List (Text × Data)) : Data :=
  .map (fields.map fun field => (.text field.1, field.2))

/-- The value of the first entry whose key is a given text. -/
def lookup? (name : Text) : List (Data × Data) → Option Data
  | [] => none
  | (.text key, value) :: rest => if key = name then some value else lookup? name rest
  | _ :: rest => lookup? name rest

/-- The entries with the value under a text key replaced where it stands, or added at the end. -/
def assign (name : Text) (value : Data) : List (Data × Data) → List (Data × Data)
  | [] => [(.text name, value)]
  | (.text key, old) :: rest =>
      if key = name then (.text key, value) :: rest
      else (.text key, old) :: assign name value rest
  | entry :: rest => entry :: assign name value rest

/-- Whether a value counts as present: not null, false, zero or empty. -/
def isTruthy : Data → Bool
  | .null => false
  | .bool value => value
  | .int value => value != 0
  | .float value => value != 0.0
  | .text value => !value.isEmpty
  | .bytes value => !value.isEmpty
  | .date _ => true
  | .moment _ => true
  | .list items => !items.isEmpty
  | .tuple items => !items.isEmpty
  | .set items => !items.isEmpty
  | .map entries => !entries.isEmpty

/-- The name of a value's kind, as messages give it. -/
def kindName : Data → Text
  | .null => "NoneType"
  | .bool _ => "bool"
  | .int _ => "int"
  | .float _ => "float"
  | .text _ => "str"
  | .bytes _ => "bytes"
  | .date _ => "date"
  | .moment _ => "datetime"
  | .list _ => "list"
  | .tuple _ => "tuple"
  | .set _ => "set"
  | .map _ => "dict"

mutual

/-- The first list, set or mapping that a value is or holds, looking into tuples.  Such collections
may change, so that a value with one cannot be a key. -/
def changeable? : Data → Option Data
  | .list items => some (.list items)
  | .set items => some (.set items)
  | .map entries => some (.map entries)
  | .tuple items => firstChangeable? items
  | _ => none

/-- The first such collection of several values. -/
def firstChangeable? : List Data → Option Data
  | [] => none
  | item :: rest => item.changeable? <|> firstChangeable? rest

end

/-- Whether a value can be a key. -/
def isHashable (data : Data) : Bool :=
  data.changeable?.isNone

end Data

end EntityForge
