import EntityForge.Text.LowerCase
import EntityForge.Yaml.Node

/-!
# Values of scalars

The value that the text of a scalar denotes under its tag.  Underscores in numbers count for
nothing, and numbers may have sexagesimal digits behind colons.
-/

namespace EntityForge.Yaml

/-- The sign of a number in front of its text. -/
def signOf : List Point → Bool × List Point
  | '-' :: rest => (true, rest)
  | '+' :: rest => (false, rest)
  | text => (false, text)

/-- The characters of a number without its underscores. -/
def numberText (text : Text) : List Point :=
  text.toList.filter (· != '_')

/-- Reads a whole number in a base. -/
def wholeIn (base : Nat) (text : List Point) : Except Fault Int :=
  (Decimal.wholeNumber base (Text.ofList text)).mapError .numeral

/-- The whole number that a text without sign and underscores denotes. -/
def unsignedInt (text : List Point) : Except Fault Int :=
  match text with
  | [] => .error .emptyNumeral
  | ['0'] => .ok 0
  | '0' :: 'b' :: digits => wholeIn 2 digits
  | '0' :: 'x' :: digits => wholeIn 16 digits
  | '0' :: _ => wholeIn 8 text
  | _ => do
      let digits ← (Text.splitOn ':' text).mapM (wholeIn 10)
      .ok (digits.foldl (fun value digit => value * 60 + digit) 0)

/-- The whole number that a text denotes. -/
def intOfText (text : Text) : Except Fault Int := do
  let (negative, body) := signOf (numberText text)
  if (numberText text).isEmpty then
    throw .emptyNumeral
  let value ← unsignedInt body
  return if negative then -value else value

/-- The sum of digits with their weights, which grow sixtyfold from the last one on. -/
def sexagesimalSum (digits : List Float) : Float :=
  (digits.reverse.foldl
    (fun (sum, weight) digit => (sum + digit * Decimal.nearestInt weight, weight * 60))
    ((0 : Float), (1 : Int))).1

/-- The decimal fraction that a text denotes. -/
def floatOfText (text : Text) : Except Fault Float := do
  let characters := (Text.lowerAfter [] (numberText text))
  let (negative, body) := signOf characters
  if characters.isEmpty then
    throw .emptyNumeral
  let fraction (digits : List Point) : Except Fault Float :=
    (Decimal.decimalFraction (Text.ofList digits)).mapError .numeral
  let value ←
    if body.isEmpty then fraction body
    else if body == (".inf" : Text).toList then .ok (1.0 / 0.0)
    else if body == (".nan" : Text).toList then .ok (0.0 / 0.0)
    else if body.contains ':' then
      sexagesimalSum <$> (Text.splitOn ':' body).mapM fraction
    else fraction body
  return if negative then -value else value

/-- The truth value that a word denotes, in any case. -/
def truthOfText (text : Text) : Except Fault Bool :=
  let lower := Text.lowerCase text
  if (["yes", "true", "on"] : List Text).contains lower then .ok true
  else if (["no", "false", "off"] : List Text).contains lower then .ok false
  else .error (.notATruthValue lower)

/-- The value of a character in the base-64 alphabet. -/
def sixBits? (character : Char) : Option Nat :=
  if character.isUpper then some (character.toNat - 'A'.toNat)
  else if character.isLower then some (character.toNat - 'a'.toNat + 26)
  else if character.isDigit then some (character.toNat - '0'.toNat + 52)
  else if character == '+' then some 62
  else if character == '/' then some 63
  else none

/-- Decodes base 64 from the middle of a group of four: `filled` of its characters came, `pads` of
its padding signs, and `carried` are the bits that make no byte yet.  Characters outside the
alphabet are skipped, and nothing is read after the padding that completes a group. -/
def decodeGroups (filled pads carried : Nat) : List Char → Except Fault (List UInt8)
  | [] => if filled = 0 then .ok [] else .error .malformed
  | character :: rest =>
      if character == '=' then
        if 2 ≤ filled && 4 ≤ filled + pads + 1 then .ok []
        else decodeGroups filled (if 2 ≤ filled then pads + 1 else pads) carried rest
      else
        match sixBits? character with
        | none => decodeGroups filled pads carried rest
        | some bits =>
            match filled with
            | 0 => decodeGroups 1 0 bits rest
            | 1 =>
                (decodeGroups 2 0 (bits % 16) rest).map
                  (UInt8.ofNat (carried * 4 + bits / 16) :: ·)
            | 2 =>
                (decodeGroups 3 0 (bits % 4) rest).map
                  (UInt8.ofNat (carried * 16 + bits / 4) :: ·)
            | _ => (decodeGroups 0 0 0 rest).map (UInt8.ofNat (carried * 64 + bits) :: ·)

/-- The bytes that a text encodes in base 64. -/
def bytesOfText (text : Text) : Except Fault (List UInt8) :=
  if text.toList.all (·.toNat < 0x80) then decodeGroups 0 0 0 text.characters
  else .error .malformed

/-- The date or moment that a text denotes.  A line feed at the end does not count. -/
def timestampOfText (text : Text) : Except Fault Data :=
  let characters := text.characters
  let shape := if characters.getLast? == some '\n' then characters.dropLast else characters
  match WrittenTimestamp.read? shape with
  | none => .error (.timestamp .notATimestamp)
  | some written => written.value.mapError .timestamp

/-- The value of a text under a tag.  Tags of collections and those without a meaning are
refused. -/
def valueOfText (tag : Tag) (text : Text) : Except Fault Data :=
  match tag with
  | .null => .ok .null
  | .bool => (truthOfText text).map .bool
  | .int => (intOfText text).map .int
  | .float => (floatOfText text).map .float
  | .binary => (bytesOfText text).map .bytes
  | .timestamp => timestampOfText text
  | .text => .ok (.text text)
  | _ => .error .malformed

end EntityForge.Yaml
