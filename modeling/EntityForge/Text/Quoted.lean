import EntityForge.Text.Basic
import EntityForge.Text.Printable

/-!
# Quoted texts

The form in which a message shows a text exactly: between quotes, with escapes for what cannot be
printed.  Single quotes are used unless the text holds one and no double quote.
-/

namespace EntityForge.Text

/-- The lower-case hexadecimal digits of a number, padded with zeros to a width. -/
def hexadecimal (width number : Nat) : List Point :=
  let digits := Nat.toDigits 16 number
  (List.replicate (width - digits.length) '0' ++ digits).map Point.scalar

/-- One character of a quoted text.  The quote that encloses the text and the backslash are
escaped; an unprintable character becomes the shortest of `\xhh`, `\uhhhh` and `\Uhhhhhhhh`. -/
def escaped (quote character : Point) : List Point :=
  if character == quote || character == '\\' then
    ['\\', character]
  else if character == '\n' then
    ['\\', 'n']
  else if character == '\r' then
    ['\\', 'r']
  else if character == '\t' then
    ['\\', 't']
  else if isPrintable character then
    [character]
  else if character.toNat < 0x100 then
    '\\' :: 'x' :: hexadecimal 2 character.toNat
  else if character.toNat < 0x10000 then
    '\\' :: 'u' :: hexadecimal 4 character.toNat
  else
    '\\' :: 'U' :: hexadecimal 8 character.toNat

/-- The quote that encloses a text. -/
def quoteFor (text : List Point) : Point :=
  if text.contains '\'' && !text.contains '"' then '"' else '\''

/-- A text between quotes. -/
def quoted (text : Text) : Text :=
  let quote := quoteFor text.toList
  Text.ofList (quote :: text.toList.flatMap (escaped quote) ++ [quote])

/-- Texts as a bracketed list of quoted texts. -/
def quotedList (texts : List Text) : Text :=
  "[" ++ Text.intercalate ", " (texts.map quoted) ++ "]"

end EntityForge.Text
