import EntityForge.Text.Utf8
import EntityForge.Yaml.Quoted

/-!
# Tokens

The tokens of a YAML document, and the reading of those that are told by an indicator: directives,
anchors and tags.
-/

namespace EntityForge.Yaml

/-- A directive at the start of a document. -/
inductive Directive where
  | version (major : Nat)
  /-- A handle for tags that start alike. -/
  | tag (handle start : String)
  | unknown
  deriving BEq, DecidableEq, Repr

/-- A token. -/
inductive Token where
  | directive (directive : Directive)
  | documentStart
  | documentEnd
  | streamEnd
  | blockSequenceStart
  | blockMappingStart
  | blockEnd
  | flowSequenceStart
  | flowSequenceEnd
  | flowMappingStart
  | flowMappingEnd
  | blockEntry
  | flowEntry
  | key
  | value
  | alias (name : String)
  | anchor (name : String)
  /-- A tag, in full when it has no handle. -/
  | tag (handle : Option String) (suffix : String)
  | scalar (text : Text) (isPlain : Bool)
  deriving BEq, DecidableEq, Repr

/-- Whether a character may stand in the name of an anchor, a handle or a directive. -/
def isNameChar (character : Char) : Bool :=
  character.isAlphanum || character == '-' || character == '_'

/-- Whether a character may stand in a tag. -/
def isTagChar (character : Char) : Bool :=
  character.isAlphanum || "-;/?:@&=+$,_.!~*'()[]".toList.contains character

/-- Reads a name. -/
def readName (cursor : Cursor) : Except Fault (String × Cursor) :=
  match cursor.takeWhile isNameChar with
  | ([], _) => .error .malformed
  | (name, after) => .ok (String.ofList name, after)

/-- The bytes of a run of percent escapes, and the place after it. -/
def percentBytes : Nat → Cursor → Except Fault (List UInt8 × Cursor)
  | 0, cursor => .ok ([], cursor)
  | fuel + 1, cursor =>
      match cursor.rest with
      | '%' :: rest =>
          let digits := rest.take 2
          if digits.length = 2 && digits.all isHexDigit then do
            let (bytes, after) ← percentBytes fuel (cursor.skip 3)
            .ok (UInt8.ofNat (Decimal.digitsIn 16 digits) :: bytes, after)
          else
            .error .malformed
      | _ => .ok ([], cursor)

/-- The characters of a tag that come next, with percent escapes decoded. -/
def tagChars : Nat → Cursor → Except Fault (List Char × Cursor)
  | 0, cursor => .ok ([], cursor)
  | fuel + 1, cursor =>
      match cursor.takeWhile isTagChar with
      | ([], _) =>
          if cursor.peek 0 == some '%' then do
            let (bytes, after) ← percentBytes (cursor.rest.length + 1) cursor
            match Text.Utf8.decode bytes with
            | .error _ => .error .malformed
            | .ok text =>
                let (more, finish) ← tagChars fuel after
                .ok (text.toList ++ more, finish)
          else
            .ok ([], cursor)
      | (taken, after) => do
          let (more, finish) ← tagChars fuel after
          .ok (taken ++ more, finish)

/-- Reads the characters of a tag, at least one of them written. -/
def readTagText (cursor : Cursor) : Except Fault (String × Cursor) :=
  if cursor.rest.head?.any fun character => isTagChar character || character == '%' then do
    let (text, after) ← tagChars (cursor.rest.length + 1) cursor
    .ok (String.ofList text, after)
  else
    .error .malformed

/-- Reads the handle of a tag: one exclamation mark, or a name between two. -/
def readHandle (cursor : Cursor) : Except Fault (String × Cursor) :=
  match cursor.rest with
  | '!' :: ' ' :: _ => .ok ("!", cursor.next)
  | '!' :: _ =>
      let (name, after) := cursor.next.takeWhile isNameChar
      if after.peek 0 == some '!' then
        .ok ("!" ++ String.ofList name ++ "!", after.next)
      else
        .error .malformed
  | _ => .error .malformed

/-- Reads the number of a version. -/
def readVersionPart (cursor : Cursor) : Except Fault (Nat × Cursor) :=
  match cursor.takeWhile Char.isDigit with
  | ([], _) => .error .malformed
  | (digits, after) =>
      if Decimal.digitLimit < digits.length then
        .error (.numeral (.tooManyDigits digits.length))
      else
        .ok (Decimal.digitsIn 10 digits, after)

/-- Reads the value of a version directive. -/
def readVersion (cursor : Cursor) : Except Fault (Directive × Cursor) := do
  let (major, afterMajor) ← readVersionPart (cursor.skipWhile (· == ' '))
  if afterMajor.peek 0 == some '.' then
    let (_, after) ← readVersionPart afterMajor.next
    if endsWord (after.peek 0) then .ok (.version major, after) else .error .malformed
  else
    .error .malformed

/-- Reads the value of a tag directive. -/
def readTagDirective (cursor : Cursor) : Except Fault (Directive × Cursor) := do
  let (handle, afterHandle) ← readHandle (cursor.skipWhile (· == ' '))
  if afterHandle.peek 0 == some ' ' then
    let (start, after) ← readTagText (afterHandle.skipWhile (· == ' '))
    if endsWord (after.peek 0) then .ok (.tag handle start, after) else .error .malformed
  else
    .error .malformed

/-- Reads a directive and the rest of its line. -/
def readDirective (cursor : Cursor) : Except Fault (Token × Cursor) := do
  let (name, afterName) ← readName cursor.next
  if endsWord (afterName.peek 0) then
    let (directive, after) ←
      if name = "YAML" then readVersion afterName
      else if name = "TAG" then readTagDirective afterName
      else .ok (.unknown, afterName.skipWhile (!isBreak ·))
    let atEnd := (after.skipWhile (· == ' ')).skipComment
    if endsLine (atEnd.peek 0) then .ok (.directive directive, atEnd.lineBreak.2)
    else .error .malformed
  else
    .error .malformed

/-- Reads the name behind the indicator of an anchor or an alias. -/
def readAnchorName (cursor : Cursor) : Except Fault (String × Cursor) := do
  let (name, after) ← readName cursor.next
  let ends := separates (after.peek 0) || (after.peek 0).any "?:,]\x7d%@`".toList.contains
  if ends then .ok (name, after) else .error .malformed

/-- Reads a tag: in full between angle brackets, alone as `!`, or behind a handle. -/
def readTag (cursor : Cursor) : Except Fault (Token × Cursor) := do
  let (token, after) ←
    if cursor.peek 1 == some '<' then
      let (suffix, after) ← readTagText (cursor.skip 2)
      if after.peek 0 == some '>' then .ok (Token.tag none suffix, after.next)
      else .error .malformed
    else if separates (cursor.peek 1) then
      .ok (Token.tag none "!", cursor.next)
    else if (cursor.next.rest.takeWhile fun character => !endsWord (some character)).contains
        '!' then
      let (handle, afterHandle) ← readHandle cursor
      let (suffix, after) ← readTagText afterHandle
      .ok (Token.tag (some handle) suffix, after)
    else
      let (suffix, after) ← readTagText cursor.next
      .ok (Token.tag (some "!") suffix, after)
  if endsWord (after.peek 0) then .ok (token, after) else .error .malformed

end EntityForge.Yaml
