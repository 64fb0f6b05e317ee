import EntityForge.Text.Quoted

/-!
# Schema issues

What can be wrong with untyped data that is read as a model.  An issue has a kind and the path of
the value at fault from the outermost mapping or list inwards.
-/

namespace EntityForge.Schema

/-- One step on the way to a value. -/
inductive Step where
  | key (name : Text)
  | index (position : Nat)
  deriving BEq, DecidableEq, Repr

/-- A step as it appears in a location. -/
def Step.text : Step → Text
  | .key name => name
  | .index position => toString position

/-- What is wrong with a value. -/
inductive Kind where
  | missing
  | extraForbidden
  | invalidKey
  | noSuchAttribute (name : Text)
  | stringType
  | stringUnicode
  | stringTooShort
  | boolType
  | boolParsing
  | intType
  | intParsing
  | intParsingSize
  | intFromFloat
  | finiteNumber
  | belowMinimum (minimum : Nat)
  | aboveMaximum (maximum : Nat)
  | listType
  | modelType (modelName : Text)
  | notCardinality
  | duplicateEntities (names : List Text)
  deriving BEq, DecidableEq, Repr

/-- The code of a kind. -/
def Kind.code : Kind → Text
  | .missing => "missing"
  | .extraForbidden => "extra_forbidden"
  | .invalidKey => "invalid_key"
  | .noSuchAttribute _ => "no_such_attribute"
  | .stringType => "string_type"
  | .stringUnicode => "string_unicode"
  | .stringTooShort => "string_too_short"
  | .boolType => "bool_type"
  | .boolParsing => "bool_parsing"
  | .intType => "int_type"
  | .intParsing => "int_parsing"
  | .intParsingSize => "int_parsing_size"
  | .intFromFloat => "int_from_float"
  | .finiteNumber => "finite_number"
  | .belowMinimum _ => "greater_than_equal"
  | .aboveMaximum _ => "less_than_equal"
  | .listType => "list_type"
  | .modelType _ => "model_type"
  | .notCardinality => "enum"
  | .duplicateEntities _ => "value_error"

/-- The wording of a kind. -/
def Kind.message : Kind → Text
  | .missing => "Field required"
  | .extraForbidden => "Extra inputs are not permitted"
  | .invalidKey => "Keys should be strings"
  | .noSuchAttribute name => "Object has no attribute '" ++ name ++ "'"
  | .stringType => "Input should be a valid string"
  | .stringUnicode =>
      "Input should be a valid string, unable to parse raw data as a unicode string"
  | .stringTooShort => "String should have at least 1 character"
  | .boolType => "Input should be a valid boolean"
  | .boolParsing => "Input should be a valid boolean, unable to interpret input"
  | .intType => "Input should be a valid integer"
  | .intParsing => "Input should be a valid integer, unable to parse string as an integer"
  | .intParsingSize =>
      "Unable to parse input string as an integer, exceeded maximum size"
  | .intFromFloat => "Input should be a valid integer, got a number with a fractional part"
  | .finiteNumber => "Input should be a finite number"
  | .belowMinimum minimum => s!"Input should be greater than or equal to {minimum}"
  | .aboveMaximum maximum => s!"Input should be less than or equal to {maximum}"
  | .listType => "Input should be a valid list"
  | .modelType modelName =>
      "Input should be a valid dictionary or instance of " ++ modelName
  | .notCardinality => "Input should be 'zero_or_one', 'one' or 'many'"
  | .duplicateEntities names =>
      "Value error, Duplicate entity definitions: " ++ Text.quotedList names

/-- Something wrong at a place in untyped data. -/
structure Issue where
  kind : Kind
  path : List Step := []
  deriving BEq, DecidableEq, Repr

/-- The steps of the path joined by dots. -/
def Issue.location (issue : Issue) : Text :=
  Text.intercalate "." (issue.path.map Step.text)

/-- Whether an issue is listed before another: by location, then by code. -/
def Issue.listedBefore (left right : Issue) : Bool :=
  left.location < right.location ||
    (left.location == right.location && left.kind.code ≤ right.kind.code)

/-- Issues in the order in which they are listed. -/
def Issue.sorted (issues : List Issue) : List Issue :=
  issues.mergeSort Issue.listedBefore

/-- The headline of a refused reading. -/
def headline (modelName : Text) (issues : List Issue) : Text :=
  let noun := if issues.length = 1 then "error" else "errors"
  (s!"{issues.length} validation " ++ noun ++ " for " ++ modelName)

end EntityForge.Schema
