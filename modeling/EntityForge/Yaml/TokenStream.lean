import EntityForge.Yaml.Block
import EntityForge.Yaml.Plain
import EntityForge.Yaml.Token

/-!
# Token streams

A document as its tokens.  Indentation becomes tokens of its own: a block collection starts where
its first entry is indented deeper than the collection around it, and ends where a line is
indented less.

The key of a mapping is recognised only by the colon behind it.  Every token that may start a key
is therefore remembered until the colon comes or can no longer come, and the tokens that a key
needs are then put before it.
-/

namespace EntityForge.Yaml

/-- The longest distance between the start of a key and its colon. -/
def keyLimit : Nat := 1024

/-- A token that may turn out to start a key. -/
structure PossibleKey where
  /-- How many tokens come before it. -/
  position : Nat
  /-- Whether nothing but a key may stand there. -/
  required : Bool
  index : Nat
  line : Nat
  column : Nat

/-- The reading of tokens from a document. -/
structure Scanner where
  cursor : Cursor
  /-- The tokens so far, the last one first. -/
  tokens : List Token := []
  /-- The number of flow collections around the cursor. -/
  flowLevel : Nat := 0
  /-- The column of the innermost block collection, and those of the collections around it. -/
  indent : Int := -1
  indents : List Int := []
  /-- Whether a key may start at the cursor. -/
  keyAllowed : Bool := true
  /-- The possible keys, at most one for each flow level. -/
  keys : List (Nat × PossibleKey) := []

/-- What was read of a document.  A complete stream ends with the end of the stream as a token;
otherwise the fault arises when a token after the last one is asked for. -/
structure TokenStream where
  tokens : List Token
  fault : Fault := .malformed

namespace Scanner

def inFlow (scanner : Scanner) : Bool :=
  scanner.flowLevel != 0

/-- Adds a token. -/
def emit (scanner : Scanner) (token : Token) : Scanner :=
  { scanner with tokens := token :: scanner.tokens }

/-- Puts a token behind the first `position` tokens. -/
def insert (scanner : Scanner) (position : Nat) (token : Token) : Scanner :=
  let later := scanner.tokens.length - position
  { scanner with
    tokens := scanner.tokens.take later ++ token :: scanner.tokens.drop later }

/-- Moves on. -/
def advance (scanner : Scanner) (count : Nat) : Scanner :=
  { scanner with cursor := scanner.cursor.skip count }

/-- Whether a possible key has been left behind, on an earlier line or too far back. -/
def isStale (scanner : Scanner) (key : PossibleKey) : Bool :=
  key.line != scanner.cursor.line || keyLimit < scanner.cursor.index - key.index

/-- Forgets possible keys that have been left behind. -/
def dropStaleKeys (scanner : Scanner) : Except Fault Scanner :=
  if scanner.keys.any fun entry => scanner.isStale entry.2 && entry.2.required then
    .error .malformed
  else
    .ok { scanner with keys := scanner.keys.filter fun entry => !scanner.isStale entry.2 }

/-- Forgets the possible key of the current flow level, which then must not be required. -/
def dropKey (scanner : Scanner) : Except Fault Scanner :=
  if (scanner.keys.lookup scanner.flowLevel).any (·.required) then
    .error .malformed
  else
    .ok { scanner with keys := scanner.keys.filter (·.1 != scanner.flowLevel) }

/-- Remembers that the next token may start a key. -/
def saveKey (scanner : Scanner) : Except Fault Scanner :=
  if scanner.keyAllowed then do
    let cleared ← scanner.dropKey
    let key : PossibleKey :=
      { position := scanner.tokens.length
        required := !scanner.inFlow && scanner.indent == scanner.cursor.column
        index := scanner.cursor.index
        line := scanner.cursor.line
        column := scanner.cursor.column }
    .ok { cleared with keys := (scanner.flowLevel, key) :: cleared.keys }
  else
    .ok scanner

/-- Leaves the block collections that are indented deeper than a column. -/
def unwind (column : Int) (scanner : Scanner) : Scanner :=
  if scanner.inFlow then scanner
  else go scanner.indents scanner
where
  /-- Leaves collections one by one. -/
  go : List Int → Scanner → Scanner
    | [], scanner => scanner
    | outer :: rest, scanner =>
        if column < scanner.indent then
          go rest ({ scanner with indent := outer, indents := rest }.emit .blockEnd)
        else scanner

/-- Enters a block collection whose start is put behind the first `position` tokens, if the column
is indented deeper than the collection around it. -/
def enterBlock (scanner : Scanner) (column position : Nat) (start : Token) : Scanner :=
  if scanner.indent < column then
    { scanner with indent := column, indents := scanner.indent :: scanner.indents }.insert
      position start
  else scanner

/-- Takes an indicator of one character that begins a block entry or a key. -/
def takeBlockIndicator (scanner : Scanner) (start indicator : Token) (keyAllowed : Bool) :
    Except Fault Scanner := do
  if !scanner.inFlow && !scanner.keyAllowed then
    throw .malformed
  let entered :=
    if scanner.inFlow then scanner
    else scanner.enterBlock scanner.cursor.column scanner.tokens.length start
  let cleared ← { entered with keyAllowed }.dropKey
  return (cleared.advance 1).emit indicator

/-- Takes the colon behind a key.  The key gets its tokens now if it was only possible so far. -/
def takeValue (scanner : Scanner) : Except Fault Scanner :=
  match scanner.keys.lookup scanner.flowLevel with
  | some key =>
      let settled :=
        { scanner with
          keys := scanner.keys.filter (·.1 != scanner.flowLevel)
          keyAllowed := false }.insert key.position .key
      let entered :=
        if scanner.inFlow then settled
        else settled.enterBlock key.column key.position .blockMappingStart
      .ok ((entered.advance 1).emit .value)
  | none => scanner.takeBlockIndicator .blockMappingStart .value (!scanner.inFlow)

/-- Takes a mark of three characters between documents, or the end of all. -/
def takeDocumentMark (scanner : Scanner) (length : Nat) (mark : Token) : Except Fault Scanner := do
  let cleared ← { scanner.unwind (-1) with keyAllowed := false }.dropKey
  return (cleared.advance length).emit mark

/-- Takes a bracket that opens a flow collection. -/
def openFlow (scanner : Scanner) (token : Token) : Except Fault Scanner := do
  let saved ← scanner.saveKey
  return ({ saved with flowLevel := saved.flowLevel + 1, keyAllowed := true }.advance 1).emit token

/-- Takes a bracket that closes a flow collection. -/
def closeFlow (scanner : Scanner) (token : Token) : Except Fault Scanner := do
  let cleared ← scanner.dropKey
  return ({ cleared with flowLevel := cleared.flowLevel - 1, keyAllowed := false }.advance 1).emit
    token

/-- Takes a token that may be a key and was read up to a cursor. -/
def takeNodePart (scanner : Scanner) (read : Except Fault (Token × Cursor)) :
    Except Fault Scanner := do
  let saved ← scanner.saveKey
  let (token, after) ← read
  return { saved with keyAllowed := false, cursor := after }.emit token

/-- Takes a block scalar. -/
def takeBlockScalar (scanner : Scanner) (foldLines : Bool) : Except Fault Scanner := do
  let cleared ← { scanner with keyAllowed := true }.dropKey
  let (text, after) ← blockScalar foldLines scanner.indent scanner.cursor
  return { cleared with cursor := after }.emit (.scalar text false)

/-- Takes a plain scalar.  A key may start on the line after it. -/
def takePlain (scanner : Scanner) : Except Fault Scanner := do
  let saved ← scanner.saveKey
  let plain := plainScalar scanner.inFlow (scanner.indent + 1) scanner.cursor
  return { saved with keyAllowed := plain.atLineEnd, cursor := plain.after }.emit
    (.scalar (String.ofList plain.text) true)

/-- Whether a plain scalar starts with a character that is followed by another one.  A hyphen, a
question mark or a colon does so only when no space comes behind it. -/
def startsPlain (inFlow : Bool) (character : Char) (next : Option Char) : Bool :=
  !(separates (some character) || "-?:,[]\x7b\x7d#&*!|>'\"%@`".toList.contains character) ||
    (!separates next &&
      (character == '-' || (!inFlow && (character == '?' || character == ':'))))

/-- The place of the next token.  A line break outside flow collections allows a key. -/
def skipToToken : Nat → Scanner → Scanner
  | 0, scanner => scanner
  | fuel + 1, scanner =>
      let atEnd := (scanner.cursor.skipWhile (· == ' ')).skipComment
      match atEnd.lineBreak with
      | ([], _) => { scanner with cursor := atEnd }
      | (_, after) =>
          skipToToken fuel
            { scanner with cursor := after, keyAllowed := scanner.keyAllowed || !scanner.inFlow }

/-- Takes the token that starts with a character. -/
def takeToken (scanner : Scanner) (character : Char) : Except Fault Scanner :=
  let cursor := scanner.cursor
  let next := cursor.peek 1
  let atStart := cursor.column == 0
  if character == '%' && atStart then do
    let cleared ← { scanner.unwind (-1) with keyAllowed := false }.dropKey
    let (token, after) ← readDirective cursor
    return { cleared with cursor := after }.emit token
  else if character == '-' && atStart && cursor.atDocumentMark then
    scanner.takeDocumentMark 3 .documentStart
  else if character == '.' && atStart && cursor.atDocumentMark then
    scanner.takeDocumentMark 3 .documentEnd
  else if character == '[' then scanner.openFlow .flowSequenceStart
  else if character == '\x7b' then scanner.openFlow .flowMappingStart
  else if character == ']' then scanner.closeFlow .flowSequenceEnd
  else if character == '\x7d' then scanner.closeFlow .flowMappingEnd
  else if character == ',' then do
    let cleared ← { scanner with keyAllowed := true }.dropKey
    return (cleared.advance 1).emit .flowEntry
  else if character == '-' && separates next then
    scanner.takeBlockIndicator .blockSequenceStart .blockEntry true
  else if character == '?' && (scanner.inFlow || separates next) then
    scanner.takeBlockIndicator .blockMappingStart .key (!scanner.inFlow)
  else if character == ':' && (scanner.inFlow || separates next) then
    scanner.takeValue
  else if character == '*' then
    scanner.takeNodePart ((readAnchorName cursor).map fun read => (.alias read.1, read.2))
  else if character == '&' then
    scanner.takeNodePart ((readAnchorName cursor).map fun read => (.anchor read.1, read.2))
  else if character == '!' then
    scanner.takeNodePart (readTag cursor)
  else if character == '|' && !scanner.inFlow then scanner.takeBlockScalar false
  else if character == '>' && !scanner.inFlow then scanner.takeBlockScalar true
  else if character == '\'' || character == '"' then
    scanner.takeNodePart
      ((quotedScalar character cursor).map fun read => (.scalar read.1 false, read.2))
  else if startsPlain scanner.inFlow character next then scanner.takePlain
  else .error .malformed

/-- The tokens before a fault.  Those from the first possible key on are not given out before the
tokens after them are known, so the fault comes first. -/
def interrupted (scanner : Scanner) (fault : Fault) : TokenStream :=
  let pending := scanner.keys.filter fun entry => !scanner.isStale entry.2
  let known := pending.foldl (fun least entry => min least entry.2.position) scanner.tokens.length
  ⟨scanner.tokens.reverse.take known, fault⟩

/-- Reads tokens up to the end of the document or the first fault. -/
def run : Nat → Scanner → TokenStream
  | 0, scanner => scanner.interrupted .malformed
  | fuel + 1, scanner =>
      let next := skipToToken (scanner.cursor.rest.length + 1) scanner
      let prepared := next.dropStaleKeys.map (unwind next.cursor.column ·)
      match prepared with
      | .error fault => scanner.interrupted fault
      | .ok prepared =>
          match prepared.cursor.peek 0 with
          | none =>
              match prepared.takeDocumentMark 0 .streamEnd with
              | .ok complete => ⟨complete.tokens.reverse, .malformed⟩
              | .error fault => scanner.interrupted fault
          | some character =>
              match prepared.takeToken character with
              | .ok after => run fuel after
              | .error fault => scanner.interrupted fault

end Scanner

/-- Whether a document may hold a character. -/
def isAllowed (character : Char) : Bool :=
  let code := character.toNat
  code == 0x09 || code == 0x0a || code == 0x0d || (0x20 ≤ code && code ≤ 0x7e) || code == 0x85 ||
    (0xa0 ≤ code && code != 0xfffe && code != 0xffff)

/-- The tokens of a document.  A byte order mark at its start is skipped. -/
def TokenStream.ofDocument (document : String) : TokenStream :=
  let cursor : Cursor := ⟨document.toList, 0, 0, 0⟩
  if document.toList.all isAllowed then
    let start := if cursor.peek 0 == some '\ufeff' then cursor.next else cursor
    Scanner.run (document.length + 1) { cursor := start }
  else
    ⟨[], .malformed⟩

end EntityForge.Yaml
