import EntityForge.Data.Keys
import EntityForge.Decimal.Numeral
import EntityForge.Text.Split

/-!
# Reading JSON

A reader of JSON documents that tells where a document goes wrong.  Besides the standard it reads
`NaN`, `Infinity` and `-Infinity`; of several entries with one key the last counts.  Positions are
counted in characters from the start of the document.
-/

namespace EntityForge.Json

/-- What is wrong with a document. -/
inductive Problem where
  | byteOrderMark
  | expectingValue
  | expectingName
  | expectingColon
  | expectingComma
  | unterminatedString
  | controlCharacter
  | badEscape
  | badUnicodeEscape
  | extraData
  deriving BEq, DecidableEq, Repr

/-- The wording of a problem. -/
def Problem.text : Problem → String
  | .byteOrderMark => "Unexpected UTF-8 BOM (decode using utf-8-sig)"
  | .expectingValue => "Expecting value"
  | .expectingName => "Expecting property name enclosed in double quotes"
  | .expectingColon => "Expecting ':' delimiter"
  | .expectingComma => "Expecting ',' delimiter"
  | .unterminatedString => "Unterminated string starting at"
  | .controlCharacter => "Invalid control character at"
  | .badEscape => "Invalid \\escape"
  | .badUnicodeEscape => "Invalid \\uXXXX escape"
  | .extraData => "Extra data"

/-- Why a document was refused. -/
inductive Fault where
  | malformed (problem : Problem) (position : Nat)
  /-- A whole number with more digits than are converted. -/
  | tooManyDigits (count : Nat)
  deriving BEq, DecidableEq, Repr

/-- The wording of a fault in a given document.  Line and column count from one. -/
def Fault.message (document : List Char) : Fault → Text
  | .malformed problem position =>
      let before := document.take position
      let line := before.count '\n' + 1
      let column := (before.reverse.takeWhile (· != '\n')).length + 1
      s!"{problem.text}: line {line} column {column} (char {position})"
  | .tooManyDigits count => (Decimal.NumeralFault.tooManyDigits count).message

/-- A place in a document: how many characters come before it, and those that come after it. -/
structure Place where
  position : Nat
  rest : List Char

namespace Place

/-- The place after the next `count` characters. -/
def skip (place : Place) (count : Nat) : Place :=
  ⟨place.position + count, place.rest.drop count⟩

/-- A fault at a place. -/
def fail {α : Type} (place : Place) (problem : Problem) : Except Fault α :=
  .error (.malformed problem place.position)

/-- Whether a character separates tokens. -/
def isSpace (character : Char) : Bool :=
  character == ' ' || character == '\t' || character == '\n' || character == '\r'

/-- The place after any white space. -/
def skipSpace (place : Place) : Place :=
  place.skip (place.rest.takeWhile isSpace).length

end Place

/-- The value of four hexadecimal digits at the start of a text. -/
def fourHexDigits? : List Char → Option Nat
  | a :: b :: c :: d :: _ => do
      let a ← hexDigit? a
      let b ← hexDigit? b
      let c ← hexDigit? c
      let d ← hexDigit? d
      some (((a * 16 + b) * 16 + c) * 16 + d)
  | _ => none
where
  /-- The value of a hexadecimal digit. -/
  hexDigit? (character : Char) : Option Nat :=
    if character.isDigit then some (character.toNat - '0'.toNat)
    else if 'a' ≤ character ∧ character ≤ 'f' then some (character.toNat - 'a'.toNat + 10)
    else if 'A' ≤ character ∧ character ≤ 'F' then some (character.toNat - 'A'.toNat + 10)
    else none

/-- The character of a simple escape. -/
def simpleEscape? : Char → Option Char
  | '"' => some '"'
  | '\\' => some '\\'
  | '/' => some '/'
  | 'b' => some '\x08'
  | 'f' => some '\x0c'
  | 'n' => some '\n'
  | 'r' => some '\r'
  | 't' => some '\t'
  | _ => none

/-- The code point of an escape `\uXXXX` whose digits start the text, and how many characters
after the `u` it takes.  A high surrogate takes a following low one along; any other surrogate is
a code point of its own. -/
def unicodeEscape (digits : List Char) (position : Nat) : Except Fault (Nat × Nat) :=
  -- The digits must be followed by at least one more character, the closing quote.
  match fourHexDigits? digits with
  | none => .error (.malformed .badUnicodeEscape position)
  | some code =>
      if digits.length ≤ 4 then
        .error (.malformed .badUnicodeEscape position)
      else if 0xd800 ≤ code && code < 0xdc00 && 10 < digits.length &&
          (digits.drop 4).take 2 == ['\\', 'u'] then
        match fourHexDigits? (digits.drop 6) with
        | none => .error (.malformed .badUnicodeEscape (position + 6))
        | some low =>
            if 0xdc00 ≤ low && low < 0xe000 then
              .ok (0x10000 + (code - 0xd800) * 0x400 + (low - 0xdc00), 10)
            else
              .ok (code, 4)
      else
        .ok (code, 4)

/-- Reads a string after its opening quote, which stands at `start`.  The characters read so far
are in reverse. -/
def readString (start : Nat) : Nat → Place → List Point → Except Fault (Text × Place)
  | 0, _, _ => .error (.malformed .unterminatedString start)
  | fuel + 1, place, read =>
      match place.rest with
      | [] => .error (.malformed .unterminatedString start)
      | '"' :: _ => .ok (Text.ofList read.reverse, place.skip 1)
      | '\\' :: rest =>
          match rest with
          | [] => .error (.malformed .unterminatedString start)
          | 'u' :: digits => do
              let (code, count) ← unicodeEscape digits (place.position + 1)
              readString start fuel (place.skip (2 + count)) (.ofNat code :: read)
          | letter :: _ =>
              match simpleEscape? letter with
              | none => place.fail .badEscape
              | some character => readString start fuel (place.skip 2) (character :: read)
      | character :: _ =>
          if character.toNat < 0x20 then place.fail .controlCharacter
          else readString start fuel (place.skip 1) (character :: read)

/-- The parts of a number: its sign, whole digits, fraction digits and exponent. -/
structure Numeral where
  negative : Bool
  whole : List Char
  fraction : Option (List Char)
  exponent : Option (Bool × List Char)

/-- The numeral that starts a text.  A fraction or an exponent without digits is not part of it,
and a leading zero stands alone. -/
def numeral? (text : List Char) : Option (Numeral × Nat) :=
  let negative := text.head? == some '-'
  let text := if negative then text.drop 1 else text
  let whole :=
    match text with
    | '0' :: _ => ['0']
    | text => text.takeWhile Char.isDigit
  if whole.isEmpty then
    none
  else
    let afterWhole := text.drop whole.length
    let fractionDigits :=
      match afterWhole with
      | '.' :: rest => rest.takeWhile Char.isDigit
      | _ => []
    let fraction := if fractionDigits.isEmpty then none else some fractionDigits
    let fractionLength := if fractionDigits.isEmpty then 0 else fractionDigits.length + 1
    let (exponent, exponentLength) :=
      match afterWhole.drop fractionLength with
      | mark :: rest =>
          if mark == 'e' || mark == 'E' then
            let signed := rest.head? == some '-' || rest.head? == some '+'
            let digits := (if signed then rest.drop 1 else rest).takeWhile Char.isDigit
            if digits.isEmpty then (none, 0)
            else
              (some (rest.head? == some '-', digits),
                1 + (if signed then 1 else 0) + digits.length)
          else (none, 0)
      | [] => (none, 0)
    some
      (⟨negative, whole, fraction, exponent⟩,
        (if negative then 1 else 0) + whole.length + fractionLength + exponentLength)

/-- The value of a numeral: whole unless it has a fraction or an exponent. -/
def Numeral.value (numeral : Numeral) : Except Fault Data :=
  match numeral.fraction, numeral.exponent with
  | none, none =>
      if Decimal.digitLimit < numeral.whole.length then
        .error (.tooManyDigits numeral.whole.length)
      else
        let magnitude : Int := Decimal.digitsIn 10 numeral.whole
        .ok (.int (if numeral.negative then -magnitude else magnitude))
  | fraction, exponent =>
      let fractionDigits := fraction.getD []
      let power : Int :=
        match exponent with
        | none => 0
        | some (true, digits) => -(Decimal.digitsIn 10 digits : Int)
        | some (false, digits) => Decimal.digitsIn 10 digits
      .ok (.float (Decimal.nearestDecimal numeral.negative
        (Decimal.digitsIn 10 (numeral.whole ++ fractionDigits)) (power - fractionDigits.length)))

/-- The words that stand for values. -/
def words : List (List Char × Data) :=
  [ ("null".toList, .null), ("true".toList, .bool true), ("false".toList, .bool false),
    ("NaN".toList, .float (0.0 / 0.0)), ("Infinity".toList, .float (1.0 / 0.0)),
    ("-Infinity".toList, .float (-1.0 / 0.0)) ]

mutual

/-- Reads the value that starts at a place. -/
def readValue : Nat → Place → Except Fault (Data × Place)
  | 0, place => place.fail .expectingValue
  | fuel + 1, place =>
      match place.rest with
      | '"' :: _ => do
          let (text, after) ←
            readString place.position (place.rest.length + 1) (place.skip 1) []
          .ok (.text text, after)
      | '\x7b' :: _ =>
          let inside := (place.skip 1).skipSpace
          match inside.rest with
          | '\x7d' :: _ => .ok (.map [], inside.skip 1)
          | _ => readEntries fuel inside []
      | '[' :: _ =>
          let inside := (place.skip 1).skipSpace
          match inside.rest with
          | ']' :: _ => .ok (.list [], inside.skip 1)
          | _ => readItems fuel inside []
      | rest =>
          match words.find? fun word => word.1.isPrefixOf rest with
          | some (word, value) => .ok (value, place.skip word.length)
          | none =>
              match numeral? rest with
              | none => place.fail .expectingValue
              | some (numeral, length) => do
                  let value ← numeral.value
                  .ok (value, place.skip length)

/-- Reads the entries of an object from the key of the next one on. -/
def readEntries : Nat → Place → List (Data × Data) → Except Fault (Data × Place)
  | 0, place, _ => place.fail .expectingName
  | fuel + 1, place, entries =>
      match place.rest with
      | '"' :: _ => do
          let (name, afterName) ←
            readString place.position (place.rest.length + 1) (place.skip 1) []
          let colon := afterName.skipSpace
          match colon.rest with
          | ':' :: _ =>
              let (value, afterValue) ← readValue fuel (colon.skip 1).skipSpace
              let entries := Data.put (.text name) value entries
              let next := afterValue.skipSpace
              match next.rest with
              | '\x7d' :: _ => .ok (.map entries, next.skip 1)
              | ',' :: _ => readEntries fuel (next.skip 1).skipSpace entries
              | _ => next.fail .expectingComma
          | _ => colon.fail .expectingColon
      | _ => place.fail .expectingName

/-- Reads the items of an array from the next one on.  Those read so far are in reverse. -/
def readItems : Nat → Place → List Data → Except Fault (Data × Place)
  | 0, place, _ => place.fail .expectingValue
  | fuel + 1, place, items => do
      let (item, afterItem) ← readValue fuel place
      let next := afterItem.skipSpace
      match next.rest with
      | ']' :: _ => .ok (.list (item :: items).reverse, next.skip 1)
      | ',' :: _ => readItems fuel (next.skip 1).skipSpace (item :: items)
      | _ => next.fail .expectingComma

end

/-- Reads a document of exactly one value.  Every value takes at least one character and two steps
of the recursion at most, which bounds its depth. -/
def read (document : String) : Except Fault Data := do
  let text := document.toList
  if text.head? == some '\ufeff' then
    throw (.malformed .byteOrderMark 0)
  let (value, after) ← readValue (2 * text.length + 2) (Place.skipSpace ⟨0, text⟩)
  let ending := after.skipSpace
  if ending.rest.isEmpty then
    return value
  ending.fail .extraData

end EntityForge.Json
