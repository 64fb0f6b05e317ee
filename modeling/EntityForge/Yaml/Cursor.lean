/-!
# Cursors

A place in a document with the line and column that decide about indentation.  A byte order mark
takes no column.
-/

namespace EntityForge.Yaml

/-- Whether a character ends a line. -/
def isBreak (character : Char) : Bool :=
  character == '\n' || character == '\r' || character == '\x85' || character == '\u2028' ||
    character == '\u2029'

/-- Whether a line ends before the next character. -/
def endsLine : Option Char → Bool
  | none => true
  | some character => isBreak character

/-- Whether a word ends before the next character, at a space or at the end of the line. -/
def endsWord (next : Option Char) : Bool :=
  next == some ' ' || endsLine next

/-- Whether an indicator is set apart from the next character, at a space, a tab or the end of the
line. -/
def separates (next : Option Char) : Bool :=
  next == some '\t' || endsWord next

/-- Whether a character indents or separates on a line. -/
def isGap (character : Char) : Bool :=
  character == ' ' || character == '\t'

/-- A place in a document. -/
structure Cursor where
  rest : List Char
  index : Nat := 0
  line : Nat := 0
  column : Nat := 0

namespace Cursor

/-- The character at a distance. -/
def peek (cursor : Cursor) (distance : Nat) : Option Char :=
  cursor.rest[distance]?

/-- The place after the next character.  A carriage return before a line feed does not end the
line by itself. -/
def next (cursor : Cursor) : Cursor :=
  match cursor.rest with
  | [] => cursor
  | character :: rest =>
      if isBreak character && !(character == '\r' && rest.head? == some '\n') then
        ⟨rest, cursor.index + 1, cursor.line + 1, 0⟩
      else if character == '\ufeff' then
        ⟨rest, cursor.index + 1, cursor.line, cursor.column⟩
      else
        ⟨rest, cursor.index + 1, cursor.line, cursor.column + 1⟩

/-- The place after a number of characters. -/
def skip (cursor : Cursor) : Nat → Cursor
  | 0 => cursor
  | count + 1 => cursor.next.skip count

/-- The characters of a class that come next, and the place after them. -/
def takeWhile (cursor : Cursor) (accept : Char → Bool) : List Char × Cursor :=
  let taken := cursor.rest.takeWhile accept
  (taken, cursor.skip taken.length)

/-- The place after the characters of a class. -/
def skipWhile (cursor : Cursor) (accept : Char → Bool) : Cursor :=
  (cursor.takeWhile accept).2

/-- The line break that comes next, as one character, and the place after it.  Without a line
break nothing is taken. -/
def lineBreak (cursor : Cursor) : List Char × Cursor :=
  match cursor.rest with
  | '\r' :: '\n' :: _ => (['\n'], cursor.skip 2)
  | character :: _ =>
      if character == '\u2028' || character == '\u2029' then ([character], cursor.next)
      else if isBreak character then (['\n'], cursor.next)
      else ([], cursor)
  | [] => ([], cursor)

/-- The place at the end of a comment, if one comes next. -/
def skipComment (cursor : Cursor) : Cursor :=
  if cursor.peek 0 == some '#' then cursor.skipWhile (!isBreak ·) else cursor

/-- Whether three hyphens or three points, which separate documents, come next. -/
def atDocumentMark (cursor : Cursor) : Bool :=
  let mark := cursor.rest.take 3
  (mark == ['-', '-', '-'] || mark == ['.', '.', '.']) && separates (cursor.peek 3)

end Cursor

end EntityForge.Yaml
