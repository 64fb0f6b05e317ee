import EntityForge.Data.Basic
import EntityForge.Decimal.Shortest
import EntityForge.Text.Quoted

/-!
# Values in messages

How a value appears in a message: a text as it is, everything else in a notation that shows its
structure, with texts inside collections between quotes.
-/

namespace EntityForge

open EntityForge.Text

/-- A natural number with at least `width` digits. -/
def paddedNumber (width number : Nat) : Text :=
  let digits := Nat.toDigits 10 number
  String.ofList (List.replicate (width - digits.length) '0' ++ digits)

/-- A date as year, month and day joined by hyphens. -/
def Date.iso (date : Date) : Text :=
  paddedNumber 4 date.year ++ "-" ++ paddedNumber 2 date.month ++ "-" ++ paddedNumber 2 date.day

/-- A moment as date and time joined by `T`.  Microseconds and the offset appear when there are
any. -/
def Moment.iso (moment : Moment) : Text :=
  let time := paddedNumber 2 moment.hour ++ ":" ++ paddedNumber 2 moment.minute ++
    ":" ++ paddedNumber 2 moment.second
  let fraction :=
    if moment.microsecond = 0 then ("" : Text) else "." ++ paddedNumber 6 moment.microsecond
  let zone :=
    match moment.offset with
    | none => ("" : Text)
    | some offset =>
        (if offset < 0 then "-" else "+") ++ paddedNumber 2 (offset.natAbs / 60) ++ ":" ++
          paddedNumber 2 (offset.natAbs % 60)
  moment.date.iso ++ "T" ++ time ++ fraction ++ zone

/-- One byte of a quoted sequence of bytes. -/
def escapedByte (quote : Point) (byte : UInt8) : List Point :=
  if byte.toNat < 0x80 then escaped quote (Point.ofNat byte.toNat)
  else '\\' :: 'x' :: hexadecimal 2 byte.toNat

/-- A sequence of bytes between quotes. -/
def quotedBytes (bytes : List UInt8) : Text :=
  let quote := quoteFor (bytes.map fun byte => Point.ofNat byte.toNat)
  Text.ofList (.scalar 'b' :: quote :: bytes.flatMap (escapedByte quote) ++ [quote])

mutual

/-- A value in the notation that shows its structure. -/
def Data.quoted : Data → Text
  | .null => "None"
  | .bool value => if value then "True" else "False"
  | .int value => toString value
  | .float value => Decimal.shortest value
  | .text value => Text.quoted value
  | .bytes value => quotedBytes value
  | .date value => value.iso
  | .moment value => value.iso
  | .list items => "[" ++ Text.intercalate ", " (quotedItems items) ++ "]"
  | .tuple items => "(" ++ Text.intercalate ", " (quotedItems items) ++ ")"
  | .set items => "\x7b" ++ Text.intercalate ", " (quotedItems items) ++ "\x7d"
  | .map entries => "\x7b" ++ Text.intercalate ", " (quotedEntries entries) ++ "\x7d"

/-- The items of a collection in that notation. -/
def quotedItems : List Data → List Text
  | [] => []
  | item :: rest => item.quoted :: quotedItems rest

/-- The entries of a mapping in that notation. -/
def quotedEntries : List (Data × Data) → List Text
  | [] => []
  | (key, value) :: rest => (key.quoted ++ ": " ++ value.quoted) :: quotedEntries rest

end

/-- A value as a message shows it. -/
def Data.display : Data → Text
  | .text value => value
  | value => value.quoted

end EntityForge
