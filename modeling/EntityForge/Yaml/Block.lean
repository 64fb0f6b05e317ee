import EntityForge.Yaml.Quoted

/-!
# Block scalars

Texts that are set apart by indentation, kept literally or with their lines folded.
-/

namespace EntityForge.Yaml

/-- What becomes of the line breaks at the end of a block scalar. -/
inductive Chomping where
  | strip
  /-- Only the first one is kept. -/
  | clip
  | keep
  deriving BEq, DecidableEq, Repr

/-- The head of a block scalar: its chomping and, if given, its indentation. -/
structure BlockHeader where
  chomping : Chomping
  increment : Option Nat

/-- The chomping indicator that comes next, if any. -/
def chompingIndicator (cursor : Cursor) : Option Chomping × Cursor :=
  match cursor.peek 0 with
  | some '+' => (some .keep, cursor.next)
  | some '-' => (some .strip, cursor.next)
  | _ => (none, cursor)

/-- The indentation indicator that comes next, if any.  It must not be zero. -/
def indentationIndicator (cursor : Cursor) : Except Fault (Option Nat × Cursor) :=
  match cursor.peek 0 with
  | some character =>
      if character == '0' then .error .malformed
      else if character.isDigit then .ok (some (character.toNat - '0'.toNat), cursor.next)
      else .ok (none, cursor)
  | none => .ok (none, cursor)

/-- The place after the rest of a line that holds at most a comment. -/
def skipLineEnd (cursor : Cursor) : Except Fault Cursor :=
  let atEnd := (cursor.skipWhile (· == ' ')).skipComment
  if endsLine (atEnd.peek 0) then .ok atEnd.lineBreak.2 else .error .malformed

/-- Reads the head of a block scalar: the two indicators in either order. -/
def blockHeader (cursor : Cursor) : Except Fault (BlockHeader × Cursor) := do
  let (early, afterEarly) := chompingIndicator cursor
  let (increment, afterIncrement) ← indentationIndicator afterEarly
  let (late, afterLate) :=
    if early.isNone && increment.isSome then chompingIndicator afterIncrement
    else (none, afterIncrement)
  if endsWord (afterLate.peek 0) then
    let after ← skipLineEnd afterLate
    .ok (⟨(early <|> late).getD .clip, increment⟩, after)
  else
    .error .malformed

/-- The empty lines before the first line of text, the greatest column that their spaces reach,
and the place after them. -/
def leadingBreaks : Nat → Cursor → Nat → List Char × Nat × Cursor
  | 0, cursor, widest => ([], widest, cursor)
  | fuel + 1, cursor, widest =>
      if cursor.peek 0 == some ' ' then
        leadingBreaks fuel cursor.next (max widest cursor.next.column)
      else
        match cursor.lineBreak with
        | ([], _) => ([], widest, cursor)
        | (taken, after) =>
            let (more, widest, finish) := leadingBreaks fuel after widest
            (taken ++ more, widest, finish)

/-- The place after at most so many spaces that the column reaches the indentation. -/
def skipIndent (indent : Nat) (cursor : Cursor) : Cursor :=
  cursor.skip ((cursor.rest.take (indent - cursor.column)).takeWhile (· == ' ')).length

/-- The line breaks between two lines of text, and the place after the indentation of the next
one. -/
def blockBreaks (indent : Nat) : Nat → Cursor → List Char × Cursor
  | 0, cursor => ([], cursor)
  | fuel + 1, cursor =>
      let atText := skipIndent indent cursor
      match atText.lineBreak with
      | ([], _) => ([], atText)
      | (taken, after) =>
          let (more, finish) := blockBreaks indent fuel after
          (taken ++ more, finish)

/-- A block scalar before its last line breaks are chomped. -/
structure BlockText where
  text : List Char
  /-- The break after the last line of text, and those of the empty lines after it. -/
  lastBreak : List Char
  trailing : List Char
  after : Cursor

/-- Reads the lines of a block scalar.  The text read so far is in reverse; `breaks` stand before
the next line. -/
def blockLines (foldLines : Bool) (indent : Nat) :
    Nat → Cursor → List Char → List Char → List Char → BlockText
  | 0, cursor, read, lastBreak, breaks => ⟨read.reverse, lastBreak, breaks, cursor⟩
  | fuel + 1, cursor, read, lastBreak, breaks =>
      if cursor.column == indent && !cursor.rest.isEmpty then
        let startsWithText := !cursor.rest.head?.any isGap
        let (line, atEnd) := cursor.takeWhile (!isBreak ·)
        let (lineBreak, afterBreak) := atEnd.lineBreak
        let (nextBreaks, next) := blockBreaks indent (afterBreak.rest.length + 1) afterBreak
        let read := line.reverse ++ breaks.reverse ++ read
        if next.column == indent && !next.rest.isEmpty then
          let joins :=
            foldLines && lineBreak == ['\n'] && startsWithText && !next.rest.head?.any isGap
          let joint :=
            if !joins then lineBreak else if nextBreaks.isEmpty then [' '] else []
          blockLines foldLines indent fuel next (joint.reverse ++ read) lineBreak nextBreaks
        else
          ⟨read.reverse, lineBreak, nextBreaks, next⟩
      else
        ⟨read.reverse, lastBreak, breaks, cursor⟩

/-- Reads a block scalar from its indicator on, inside a collection that is indented by
`parentIndent`. -/
def blockScalar (foldLines : Bool) (parentIndent : Int) (cursor : Cursor) :
    Except Fault (String × Cursor) := do
  let (header, start) ← blockHeader cursor.next
  let least := max (parentIndent + 1).toNat 1
  let fuel := start.rest.length + 1
  let (indent, breaks, first) :=
    match header.increment with
    | some increment =>
        let indent := least + increment - 1
        let (breaks, first) := blockBreaks indent fuel start
        (indent, breaks, first)
    | none =>
        let (breaks, widest, first) := leadingBreaks fuel start 0
        (max least widest, breaks, first)
  let block := blockLines foldLines indent fuel first [] [] breaks
  let ending :=
    match header.chomping with
    | .strip => []
    | .clip => block.lastBreak
    | .keep => block.lastBreak ++ block.trailing
  .ok (String.ofList (block.text ++ ending), block.after)

end EntityForge.Yaml
