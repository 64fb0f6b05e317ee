import EntityForge.Decimal.Double
import EntityForge.Text.Blank
import EntityForge.Text.DecimalDigits
import EntityForge.Text.Quoted
import EntityForge.Text.Split

/-!
# Reading numerals

Whole numbers in a base and decimal fractions, as people write them into texts: white space around
a numeral and its sign are accepted, digits may come from any script, and single underscores may
stand between the digits of a whole number.  A whole number in base ten must not have too many
digits, so that reading takes no more than a bounded time.
-/

namespace EntityForge.Decimal

open EntityForge.Text

/-- The greatest number of digits of a whole number in base ten. -/
def digitLimit : Nat := 4300

/-- Why a text is no numeral. -/
inductive NumeralFault where
  | notWhole (base : Nat) (text : Text)
  | tooManyDigits (count : Nat)
  | notDecimal (text : Text)
  deriving BEq, DecidableEq, Repr

/-- The wording of a fault.  Of a long text that is no whole number only the start is shown. -/
def NumeralFault.message : NumeralFault → Text
  | .notWhole base text =>
      s!"invalid literal for int() with base {base}: " ++
        Text.ofList ((quoted text).toList.take 200)
  | .tooManyDigits count =>
      s!"Exceeds the limit ({digitLimit} digits) for integer string conversion: " ++
        s!"value has {count} digits; use sys.set_int_max_str_digits() to increase the limit"
  | .notDecimal text => "could not convert string to float: " ++ quoted text

/-- The ASCII form of a decimal digit, other characters as they are. -/
def asciiDigit (character : Char) : Char :=
  match decimalDigit? character with
  | some value => Char.ofNat ('0'.toNat + value)
  | none => character

/-- The numeral in a text: no white space around it, and ASCII digits in it.  Surrogates, which are
part of no numeral, count as the replacement character, which is none either. -/
def bareNumeral (text : Text) : List Char :=
  (trimWhere (fun (character : Char) => isWhiteSpace character) text.characters).map asciiDigit

/-- The numeral behind its sign, and whether that is a minus sign. -/
def splitSign : List Char → Bool × List Char
  | '-' :: rest => (true, rest)
  | '+' :: rest => (false, rest)
  | numeral => (false, numeral)

/-- The value of an ASCII letter or digit as a digit. -/
def alphanumericValue (character : Char) : Nat :=
  if character.isDigit then character.toNat - '0'.toNat
  else if character.isLower then character.toNat - 'a'.toNat + 10
  else if character.isUpper then character.toNat - 'A'.toNat + 10
  else 36

/-- The numeral without the mark of its base, and without an underscore behind that mark.  The
mark stays when no digit follows. -/
def withoutBaseMark (base : Nat) (numeral : List Char) : List Char :=
  match numeral with
  | '0' :: mark :: rest =>
      let marked :=
        (base = 2 && mark.toLower == 'b') || (base = 8 && mark.toLower == 'o') ||
          (base = 16 && mark.toLower == 'x')
      let digits := if rest.head? == some '_' then rest.drop 1 else rest
      if marked && digits.head?.any (alphanumericValue · < base) then digits else numeral
  | numeral => numeral

/-- The value of digits in a base. -/
def digitsIn (base : Nat) (digits : List Char) : Nat :=
  digits.foldl (fun value digit => value * base + alphanumericValue digit) 0

/-- Reads a whole number in a base up to sixteen. -/
def wholeNumber (base : Nat) (text : Text) : Except NumeralFault Int :=
  let (negative, unsigned) := splitSign (bareNumeral text)
  let numeral := withoutBaseMark base unsigned
  let isPart (character : Char) : Bool := alphanumericValue character < base || character == '_'
  let groups := (numeral.takeWhile isPart).splitOn '_'
  let digits := groups.flatten
  if groups.any List.isEmpty then
    .error (.notWhole base text)
  else if base = 10 && digitLimit < digits.length then
    .error (.tooManyDigits digits.length)
  else if numeral.all isPart then
    let magnitude : Int := digitsIn base digits
    .ok (if negative then -magnitude else magnitude)
  else
    .error (.notWhole base text)

/-- The numbers that are written as words. -/
def numberWord? (word : List Char) : Option Float :=
  let lower := String.ofList (word.map Char.toLower)
  if lower = "inf" ∨ lower = "infinity" then some (1.0 / 0.0)
  else if lower = "nan" then some (0.0 / 0.0)
  else none

/-- Reads an unsigned decimal fraction: digits, at least one of them around an optional point, and
an optional exponent. -/
def unsignedDecimal? (negative : Bool) (numeral : List Char) : Option Float :=
  let whole := numeral.takeWhile Char.isDigit
  let afterWhole := numeral.dropWhile Char.isDigit
  let (fraction, afterFraction) :=
    match afterWhole with
    | '.' :: rest => (rest.takeWhile Char.isDigit, rest.dropWhile Char.isDigit)
    | rest => ([], rest)
  let digits := whole ++ fraction
  let power? : Option Int :=
    match afterFraction with
    | [] => some 0
    | mark :: rest =>
        let (minus, exponent) := splitSign rest
        if (mark == 'e' || mark == 'E') && !exponent.isEmpty && exponent.all Char.isDigit then
          let magnitude : Int := digitsIn 10 exponent
          some (if minus then -magnitude else magnitude)
        else none
  if digits.isEmpty then none
  else power?.map fun power =>
    nearestDecimal negative (digitsIn 10 digits) (power - fraction.length)

/-- Reads a decimal fraction. -/
def decimalFraction (text : Text) : Except NumeralFault Float :=
  let (negative, unsigned) := splitSign (bareNumeral text)
  let number? :=
    match numberWord? unsigned with
    | some number => some (if negative then -number else number)
    | none => unsignedDecimal? negative unsigned
  match number? with
  | some number => .ok number
  | none => .error (.notDecimal text)

end EntityForge.Decimal
