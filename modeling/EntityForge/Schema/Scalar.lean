import EntityForge.Data.Basic
import EntityForge.Decimal.Numeral
import EntityForge.Schema.Checked
import EntityForge.Text.Blank
import EntityForge.Text.Utf8

/-!
# Reading scalars

How untyped values are read as texts, truth values and whole numbers.  Reading is lenient where no
information is lost: `"yes"` and `1` are truth values, `"4.0"` and `4.0` are whole numbers.
-/

namespace EntityForge.Schema

open EntityForge.Text

/-- Reads a text.  Bytes count as the text that they encode. -/
def readText : Data → Checked Text
  | .text value => .valid value
  | .bytes value =>
      match Utf8.decode value with
      | .ok text => .valid text
      | .error _ => .issue .stringUnicode
  | _ => .issue .stringType

/-- The characters of a text or of bytes that encode one, for readings that take nothing else.  A
text with a surrogate is refused as such, other bytes as what they should have been. -/
def textual? (refused : Kind) : Data → Option (Checked String)
  | .text value => some (value.string?.elim (.issue .stringUnicode) .valid)
  | .bytes value => some ((Utf8.decode value).toOption.elim (.issue refused) .valid)
  | _ => none

/-- The truth value that a word stands for, in any case. -/
def truthOfWord? (word : String) : Option Bool :=
  let lower := word.toLower
  if ["0", "off", "f", "false", "n", "no"].contains lower then some false
  else if ["1", "on", "t", "true", "y", "yes"].contains lower then some true
  else none

/-- The magnitude from which on a whole number needs more than a signed word of 64 bits. -/
def wordLimit : Int := 0x8000000000000000

/-- The whole number that a float denotes.  It must fit into a word. -/
def intOfFloat (number : Float) : Checked Int :=
  match Decimal.Double.ofFloat number with
  | .notANumber | .infinite _ => .issue .finiteNumber
  | double =>
      if !double.isWhole then .issue .intFromFloat
      else if -wordLimit < double.truncate ∧ double.truncate < wordLimit then
        .valid double.truncate
      else .issue .intParsingSize

/-- The truth value that a whole number stands for. -/
def truthOfInt : Int → Checked Bool
  | 0 => .valid false
  | 1 => .valid true
  | _ => .issue .boolParsing

/-- Reads a truth value. -/
def readBool (value : Data) : Checked Bool :=
  match value with
  | .bool value => .valid value
  | .int number =>
      if -wordLimit ≤ number ∧ number < wordLimit then truthOfInt number else .issue .boolType
  | .float number =>
      match intOfFloat number with
      | .valid number => truthOfInt number
      | .invalid _ => .issue .boolType
  | value =>
      match textual? .boolParsing value with
      | none => .issue .boolType
      | some text =>
          text.andThen fun word => (truthOfWord? word).elim (.issue .boolParsing) .valid

/-- Drops the leading zeros of an unsigned numeral, and single underscores among them, but keeps
one zero before a point or at the end.  The character before the text was a zero when
`afterZero` holds, else an underscore. -/
def dropZeros (last : Char) : List Char → Option (List Char)
  | [] => some [last]
  | character :: rest =>
      if character = '0' then dropZeros '0' rest
      else if '1' ≤ character ∧ character ≤ '9' then some (character :: rest)
      else if character = '_' ∧ last ≠ '_' then dropZeros '_' rest
      else if character = '.' then some (last :: '.' :: rest)
      else none

/-- The numeral without leading zeros.  Zeros behind a minus sign stay. -/
def withoutLeadingZeros : List Char → Option (List Char)
  | [] => none
  | character :: rest =>
      if character = '0' then dropZeros '0' rest
      else if ('1' ≤ character ∧ character ≤ '9') ∨ character = '-' then
        some (character :: rest)
      else none

/-- The numeral without a fraction of zeros. -/
def withoutZeroFraction (numeral : List Char) : List Char :=
  let whole := numeral.takeWhile (· != '.')
  let fraction := (numeral.dropWhile (· != '.')).drop 1
  if !fraction.isEmpty && fraction.all (· == '0') then whole else numeral

/-- The numeral without its underscores, each of which must stand between two other
characters. -/
def withoutUnderscores (numeral : List Char) : Option (List Char) :=
  let pieces := numeral.splitOn '_'
  if 1 < pieces.length && pieces.any (·.isEmpty) then none else some pieces.flatten

/-- Reads plain decimal digits behind an optional minus sign. -/
def plainInt (numeral : List Char) : Checked Int :=
  let negative := numeral.head? == some '-'
  let digits := if negative then numeral.drop 1 else numeral
  if digits.isEmpty || !digits.all Char.isDigit || (1 < digits.length && digits.head? == some '0')
  then .issue .intParsing
  else if Decimal.digitLimit < digits.length then .issue .intParsingSize
  else
    let magnitude : Int := Decimal.digitsIn 10 digits
    .valid (if negative then -magnitude else magnitude)

/-- Reads a whole number from a text. -/
def intOfText (text : String) : Checked Int :=
  let trimmed := trimWhere (fun (character : Char) => isWhiteSpace character) text.toList
  let plus := trimmed.head? == some '+'
  let unsigned := if plus then trimmed.drop 1 else trimmed
  if plus && unsigned.head? == some '-' then
    .issue .intParsing
  else
    match (withoutLeadingZeros unsigned).map withoutZeroFraction >>= withoutUnderscores with
    | none => .issue .intParsing
    | some numeral => plainInt numeral

/-- Reads a whole number. -/
def readInt (value : Data) : Checked Int :=
  match value with
  | .int number => .valid number
  | .bool truth => .valid (if truth then 1 else 0)
  | .float number => intOfFloat number
  | value =>
      match textual? .intParsing value with
      | none => .issue .intType
      | some text => text.andThen intOfText

/-- Reads a value that may be null. -/
def readOptional {α : Type} (read : Data → Checked α) : Data → Checked (Option α)
  | .null => .valid none
  | value => some <$> read value

/-- Reads a list.  Tuples and sets count as lists. -/
def readList {α : Type} (read : Data → Checked α) : Data → Checked (List α)
  | .list items | .tuple items | .set items => Checked.items read 0 items
  | _ => .issue .listType

end EntityForge.Schema
