import EntityForge.Yaml.Cursor
import EntityForge.Yaml.Fault

/-!
# Quoted scalars

Texts between single or double quotes.  Line breaks inside are folded into spaces; only double
quotes have escapes.
-/

namespace EntityForge.Yaml

/-- The character of an escape that stands for one character. -/
def simpleEscape? : Char → Option Char
  | '0' => some '\x00'
  | 'a' => some '\x07'
  | 'b' => some '\x08'
  | 't' => some '\t'
  | '\t' => some '\t'
  | 'n' => some '\n'
  | 'v' => some '\x0b'
  | 'f' => some '\x0c'
  | 'r' => some '\r'
  | 'e' => some '\x1b'
  | ' ' => some ' '
  | '"' => some '"'
  | '\\' => some '\\'
  | '/' => some '/'
  | 'N' => some '\x85'
  | '_' => some '\xa0'
  | 'L' => some '\u2028'
  | 'P' => some '\u2029'
  | _ => none

/-- The number of hexadecimal digits of an escape for a code point. -/
def codePointDigits? : Char → Option Nat
  | 'x' => some 2
  | 'u' => some 4
  | 'U' => some 8
  | _ => none

/-- Whether a character is a hexadecimal digit. -/
def isHexDigit (character : Char) : Bool :=
  Decimal.alphanumericValue character < 16

/-- The code point that hexadecimal digits denote, which may be half of a surrogate pair. -/
def pointOfDigits (digits : List Char) : Except Fault Point :=
  let code := Decimal.digitsIn 16 digits
  if 0x7fffffff < code then .error .codePointTooLarge
  else if 0x10ffff < code then .error .codePointOutOfRange
  else .ok (.ofNat code)

/-- The line breaks that come next, with the space around them dropped.  A mark between documents
must not stand among them. -/
def foldedBreaks : Nat → Cursor → Except Fault (List Char × Cursor)
  | 0, _ => .error .malformed
  | fuel + 1, cursor =>
      if cursor.atDocumentMark then
        .error .malformed
      else
        let atText := cursor.skipWhile isGap
        match atText.lineBreak with
        | ([], _) => .ok ([], atText)
        | (taken, after) => do
            let (more, finish) ← foldedBreaks fuel after
            .ok (taken ++ more, finish)

/-- What a line break and the breaks after it become in a folded text: a single line feed becomes
a space, further breaks are kept. -/
def folded (first more : List Char) : List Char :=
  if first != ['\n'] then first ++ more
  else if more.isEmpty then [' ']
  else more

/-- The space that comes next, folded if it holds a line break. -/
def quotedSpace (cursor : Cursor) : Except Fault (List Char × Cursor) :=
  let (gap, atText) := cursor.takeWhile isGap
  match atText.rest with
  | [] => .error .malformed
  | _ =>
      match atText.lineBreak with
      | ([], _) => .ok (gap, atText)
      | (first, after) => do
          let (more, finish) ← foldedBreaks (after.rest.length + 1) after
          .ok (folded first more, finish)

/-- What an escape stands for.  The cursor is at the character after the backslash. -/
def escape (cursor : Cursor) : Except Fault (List Point × Cursor) :=
  match cursor.rest with
  | [] => .error .malformed
  | letter :: rest =>
      match simpleEscape? letter, codePointDigits? letter with
      | some character, _ => .ok ([character], cursor.next)
      | none, some count =>
          let digits := rest.take count
          if digits.length = count && digits.all isHexDigit then do
            let point ← pointOfDigits digits
            .ok ([point], cursor.skip (count + 1))
          else
            .error .malformed
      | none, none =>
          match cursor.lineBreak with
          | ([], _) => .error .malformed
          | (_, after) => do
              let (breaks, finish) ← foldedBreaks (after.rest.length + 1) after
              .ok (breaks.map Point.scalar, finish)

/-- Reads a quoted scalar after its opening quote.  The text read so far is in reverse. -/
def quotedText (quote : Char) : Nat → Cursor → List Point → Except Fault (List Point × Cursor)
  | 0, _, _ => .error .malformed
  | fuel + 1, cursor, read =>
      match cursor.rest with
      | [] => .error .malformed
      | character :: rest =>
          if isGap character || isBreak character then do
            let (space, after) ← quotedSpace cursor
            quotedText quote fuel after (space.reverse.map Point.scalar ++ read)
          else if character == quote then
            if quote == '\'' && rest.head? == some quote then
              quotedText quote fuel (cursor.skip 2) (quote :: read)
            else
              .ok (read.reverse, cursor.next)
          else if quote == '"' && character == '\\' then do
            let (text, after) ← escape cursor.next
            quotedText quote fuel after (text.reverse ++ read)
          else
            quotedText quote fuel cursor.next (character :: read)

/-- Reads a quoted scalar from its opening quote on. -/
def quotedScalar (quote : Char) (cursor : Cursor) : Except Fault (Text × Cursor) := do
  let (text, after) ← quotedText quote (cursor.rest.length + 1) cursor.next []
  .ok (Text.ofList text, after)

end EntityForge.Yaml
