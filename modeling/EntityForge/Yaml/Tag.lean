import EntityForge.Text.Split
import EntityForge.Yaml.Timestamp

/-!
# Tags

The tag of a node says how its value is made.  A plain scalar without a tag gets one from its
shape.
-/

namespace EntityForge.Yaml

/-- What a node denotes. -/
inductive Tag where
  | null
  | bool
  | int
  | float
  | binary
  | timestamp
  | text
  | sequence
  | mapping
  | orderedMap
  | pairs
  | set
  /-- The key under which other mappings are merged into one. -/
  | merge
  /-- The key of the value that stands for a mapping. -/
  | default
  | other
  deriving BEq, DecidableEq, Repr

/-- What the full names of the standard tags start with. -/
def standardStart : String := "tag:yaml.org,2002:"

/-- The tag of a full name. -/
def Tag.ofName (name : String) : Tag :=
  let known : List (String × Tag) :=
    [ ("null", .null), ("bool", .bool), ("int", .int), ("float", .float), ("binary", .binary),
      ("timestamp", .timestamp), ("str", .text), ("seq", .sequence), ("map", .mapping),
      ("omap", .orderedMap), ("pairs", .pairs), ("set", .set), ("merge", .merge),
      ("value", .default) ]
  ((known.find? fun entry => standardStart ++ entry.1 == name).map (·.2)).getD .other

/-- The words for truth values. -/
def truthWords : List String :=
  [ "yes", "Yes", "YES", "no", "No", "NO", "true", "True", "TRUE", "false", "False", "FALSE",
    "on", "On", "ON", "off", "Off", "OFF" ]

/-- The words for null. -/
def nullWords : List String :=
  ["~", "null", "Null", "NULL", ""]

/-- The text without a sign. -/
def unsigned : List Char → List Char
  | '+' :: rest => rest
  | '-' :: rest => rest
  | text => text

/-- Whether a text has at least one character, all of a class. -/
def isRunOf (accept : Char → Bool) (text : List Char) : Bool :=
  !text.isEmpty && text.all accept

/-- Whether a character is a digit of a base or an underscore. -/
def isSpacedDigit (base : Nat) (character : Char) : Bool :=
  Decimal.alphanumericValue character < base || character == '_'

/-- Whether a text is a digit followed by digits and underscores. -/
def isSpacedNumber : List Char → Bool
  | first :: rest => first.isDigit && rest.all (isSpacedDigit 10)
  | [] => false

/-- Whether a text is a number below sixty of one or two digits. -/
def isSexagesimalDigit : List Char → Bool
  | [ones] => ones.isDigit
  | [tens, ones] => '0' ≤ tens && tens ≤ '5' && ones.isDigit
  | _ => false

/-- Whether a text is a number followed by sexagesimal digits behind colons, at least one. -/
def isSexagesimal (text : List Char) : Bool :=
  match text.splitOn ':' with
  | first :: second :: rest => isSpacedNumber first && (second :: rest).all isSexagesimalDigit
  | _ => false

/-- Whether a text has the shape of a whole number. -/
def isIntText (text : List Char) : Bool :=
  match unsigned text with
  | ['0'] => true
  | '0' :: 'b' :: digits => isRunOf (isSpacedDigit 2) digits
  | '0' :: 'x' :: digits => isRunOf (isSpacedDigit 16) digits
  | '0' :: digits => isRunOf (isSpacedDigit 8) digits
  | digits => isSpacedNumber digits || isSexagesimal digits

/-- Whether a text is empty or an exponent with a sign. -/
def isExponent : List Char → Bool
  | [] => true
  | mark :: sign :: digits =>
      (mark == 'e' || mark == 'E') && (sign == '-' || sign == '+') && isRunOf Char.isDigit digits
  | _ => false

/-- Whether a text has the shape of a decimal fraction.  A fraction that starts with its point has
no sign. -/
def isFloatText (text : List Char) : Bool :=
  let body := unsigned text
  let whole := body.takeWhile (· != '.')
  let fraction := (body.dropWhile (· != '.')).drop 1
  let afterDigits := fraction.dropWhile (isSpacedDigit 10)
  let words := [".inf".toList, ".Inf".toList, ".INF".toList]
  let nanWords := [".nan".toList, ".NaN".toList, ".NAN".toList]
  words.contains body || nanWords.contains text ||
    (body.contains '.' &&
      ((isSpacedNumber whole && isExponent afterDigits) ||
        (isSexagesimal whole && afterDigits.isEmpty) ||
        (text.head? == some '.' && fraction.head?.any Char.isDigit && isExponent afterDigits)))

/-- The tag that a plain scalar has by its shape.  A line feed at the end does not count. -/
def Tag.ofShape (text : Text) : Tag :=
  let characters := text.characters
  let shape := if characters.getLast? == some '\n' then characters.dropLast else characters
  let word := String.ofList shape
  let isDate :=
    match WrittenTimestamp.read? shape with
    | some written => written.time.isSome || written.isPadded
    | none => false
  if truthWords.contains word then .bool
  else if isFloatText shape then .float
  else if isIntText shape then .int
  else if word = "<<" then .merge
  else if nullWords.contains word && !(text = "\n") then .null
  else if isDate then .timestamp
  else if word = "=" then .default
  else if word = "!" ∨ word = "&" ∨ word = "*" then .other
  else .text

end EntityForge.Yaml
