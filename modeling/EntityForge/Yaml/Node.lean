import EntityForge.Yaml.Tag
import EntityForge.Yaml.TokenStream

/-!
# Nodes

The tree of a document.  Nodes are read from tokens by recursive descent; aliases are replaced by
the nodes that they refer to.  An alias inside the node of its own anchor makes a cycle, which
stays in the tree as a name.
-/

namespace EntityForge.Yaml

/-- A node with its tag. -/
inductive Node where
  | scalar (tag : Tag) (text : Text)
  | sequence (tag : Tag) (items : List Node)
  | mapping (tag : Tag) (entries : List (Node × Node))
  /-- The node around this one that has an anchor of that name. -/
  | cycle (anchor : String)
  deriving Inhabited

namespace Node

/-- The node of an absent value. -/
def empty : Node := .scalar .null ""

/-- The anchor and the tag in front of a node. -/
structure Properties where
  anchor : Option String := none
  tag : Option String := none

/-- Whether a tag leaves the choice to the shape or kind of the node. -/
def Properties.isUntagged (properties : Properties) : Bool :=
  properties.tag.all (· == "!")

/-- The tag of a collection. -/
def Properties.tagOr (properties : Properties) (usual : Tag) : Tag :=
  if properties.isUntagged then usual else (properties.tag.map Tag.ofName).getD usual

/-- The tag of a scalar.  The tag `!` makes even a quoted scalar count by its shape. -/
def Properties.scalarTag (properties : Properties) (text : Text) (isPlain : Bool) : Tag :=
  if properties.tag == some "!" || (isPlain && properties.tag.isNone) then .ofShape text
  else (properties.tag.map Tag.ofName).getD .text

/-- The reading of nodes from tokens. -/
structure Reader where
  stream : TokenStream
  /-- The handles of tags with what they stand for. -/
  handles : List (String × String)
  /-- The anchors so far; those whose node is not complete have none. -/
  anchors : List (String × Option Node) := []

namespace Reader

/-- The next token.  Asking for a token after the last one is a fault. -/
def peek (reader : Reader) : Except Fault Token :=
  match reader.stream.tokens with
  | token :: _ => .ok token
  | [] => .error reader.stream.fault

/-- The tokens after the next one. -/
def drop (reader : Reader) : Reader :=
  { reader with stream := { reader.stream with tokens := reader.stream.tokens.drop 1 } }

/-- Records the node of an anchor. -/
def record (reader : Reader) (anchor : Option String) (node : Option Node) : Reader :=
  match anchor with
  | none => reader
  | some name => { reader with anchors := (name, node) :: reader.anchors }

/-- The full name of a tag. -/
def tagName (reader : Reader) : Option String → String → Except Fault String
  | none, suffix => .ok suffix
  | some handle, suffix =>
      match reader.handles.lookup handle with
      | some start => .ok (start ++ suffix)
      | none => .error .malformed

/-- Reads an anchor that may come next. -/
def takeAnchor (reader : Reader) : Except Fault (Option String × Reader) := do
  match ← reader.peek with
  | .anchor name => .ok (some name, reader.drop)
  | _ => .ok (none, reader)

/-- Reads a tag that may come next, without resolving its handle. -/
def takeTag (reader : Reader) : Except Fault (Option (Option String × String) × Reader) := do
  match ← reader.peek with
  | .tag handle suffix => .ok (some (handle, suffix), reader.drop)
  | _ => .ok (none, reader)

/-- Reads the properties of a node: an anchor and a tag in either order. -/
def takeProperties (reader : Reader) : Except Fault (Properties × Reader) := do
  let (early, afterEarly) ← reader.takeAnchor
  let (tag, afterTag) ← afterEarly.takeTag
  let (late, after) ←
    if early.isNone && tag.isSome then afterTag.takeAnchor else .ok (none, afterTag)
  let name ← tag.mapM fun tag => reader.tagName tag.1 tag.2
  .ok (⟨early <|> late, name⟩, after)

/-- Opens an anchor, which must be new. -/
def openAnchor (reader : Reader) (anchor : Option String) : Except Fault Reader :=
  if anchor.any fun name => (reader.anchors.lookup name).isSome then .error .malformed
  else .ok (reader.record anchor none)

/-- Closes an anchor with its node. -/
def closeAnchor (reader : Reader) (anchor : Option String) (node : Node) : Node × Reader :=
  (node, reader.record anchor (some node))

/-- The node that an alias refers to. -/
def resolve (reader : Reader) (name : String) : Except Fault Node :=
  match reader.anchors.lookup name with
  | none => .error .malformed
  | some none => .ok (.cycle name)
  | some (some node) => .ok node

end Reader

/-- The place of a node, which decides what may stand there. -/
inductive Place where
  | flow
  | block
  /-- In a block mapping, where a sequence needs no indentation of its own. -/
  | mappingPart
  deriving BEq, DecidableEq, Repr

mutual

/-- Reads a node. -/
def read : Nat → Place → Reader → Except Fault (Node × Reader)
  | 0, _, _ => .error .malformed
  | fuel + 1, place, reader => do
      match ← reader.peek with
      | .alias name => do
          let node ← reader.resolve name
          .ok (node, reader.drop)
      | _ => do
          let (properties, content) ← reader.takeProperties
          let anchor := properties.anchor
          match ← content.peek, place with
          | .scalar text isPlain, _ => do
              let opened ← content.drop.openAnchor anchor
              .ok (opened.closeAnchor anchor
                (.scalar (properties.scalarTag text isPlain) text))
          | .flowSequenceStart, _ => do
              let opened ← content.drop.openAnchor anchor
              let (items, after) ← readFlowItems fuel true opened
              .ok (after.closeAnchor anchor (.sequence (properties.tagOr .sequence) items))
          | .flowMappingStart, _ => do
              let opened ← content.drop.openAnchor anchor
              let (entries, after) ← readFlowEntries fuel true opened
              .ok (after.closeAnchor anchor (.mapping (properties.tagOr .mapping) entries))
          | .blockEntry, .mappingPart => do
              let opened ← content.openAnchor anchor
              let (items, after) ← readIndentlessItems fuel opened
              .ok (after.closeAnchor anchor (.sequence (properties.tagOr .sequence) items))
          | .blockSequenceStart, .block | .blockSequenceStart, .mappingPart => do
              let opened ← content.drop.openAnchor anchor
              let (items, after) ← readBlockItems fuel opened
              .ok (after.closeAnchor anchor (.sequence (properties.tagOr .sequence) items))
          | .blockMappingStart, .block | .blockMappingStart, .mappingPart => do
              let opened ← content.drop.openAnchor anchor
              let (entries, after) ← readBlockEntries fuel opened
              .ok (after.closeAnchor anchor (.mapping (properties.tagOr .mapping) entries))
          | _, _ =>
              if anchor.isSome || properties.tag.isSome then do
                let opened ← content.openAnchor anchor
                let tag :=
                  if properties.isUntagged then .null else properties.scalarTag "" false
                .ok (opened.closeAnchor anchor (.scalar tag ""))
              else
                .error .malformed

/-- Reads a node unless one of some tokens comes next, in which case there is an empty one. -/
def readUnless : Nat → (Token → Bool) → Place → Reader → Except Fault (Node × Reader)
  | 0, _, _, _ => .error .malformed
  | fuel + 1, ends, place, reader => do
      if ends (← reader.peek) then .ok (empty, reader) else read fuel place reader

/-- Reads the items of a block sequence up to its end. -/
def readBlockItems : Nat → Reader → Except Fault (List Node × Reader)
  | 0, _ => .error .malformed
  | fuel + 1, reader => do
      match ← reader.peek with
      | .blockEntry => do
          let (item, after) ←
            readUnless fuel (fun token => token == .blockEntry || token == .blockEnd) .block
              reader.drop
          let (items, finish) ← readBlockItems fuel after
          .ok (item :: items, finish)
      | .blockEnd => .ok ([], reader.drop)
      | _ => .error .malformed

/-- Reads the items of a sequence that has no indentation of its own, and so no end. -/
def readIndentlessItems : Nat → Reader → Except Fault (List Node × Reader)
  | 0, _ => .error .malformed
  | fuel + 1, reader => do
      match ← reader.peek with
      | .blockEntry => do
          let ends (token : Token) : Bool :=
            token == .blockEntry || token == .key || token == .value || token == .blockEnd
          let (item, after) ← readUnless fuel ends .block reader.drop
          let (items, finish) ← readIndentlessItems fuel after
          .ok (item :: items, finish)
      | _ => .ok ([], reader)

/-- Reads the value of a block mapping's entry; it may be absent together with its colon. -/
def readBlockValue : Nat → Reader → Except Fault (Node × Reader)
  | 0, _ => .error .malformed
  | fuel + 1, reader => do
      match ← reader.peek with
      | .value =>
          let ends (token : Token) : Bool :=
            token == .key || token == .value || token == .blockEnd
          readUnless fuel ends .mappingPart reader.drop
      | _ => .ok (empty, reader)

/-- Reads the entries of a block mapping up to its end. -/
def readBlockEntries : Nat → Reader → Except Fault (List (Node × Node) × Reader)
  | 0, _ => .error .malformed
  | fuel + 1, reader => do
      match ← reader.peek with
      | .key => do
          let ends (token : Token) : Bool :=
            token == .key || token == .value || token == .blockEnd
          let (key, afterKey) ← readUnless fuel ends .mappingPart reader.drop
          let (value, afterValue) ← readBlockValue fuel afterKey
          let (entries, finish) ← readBlockEntries fuel afterValue
          .ok ((key, value) :: entries, finish)
      | .blockEnd => .ok ([], reader.drop)
      | _ => .error .malformed

/-- Reads the value of an entry in a flow collection, which may be absent together with its
colon. -/
def readFlowValue : Nat → Token → Reader → Except Fault (Node × Reader)
  | 0, _, _ => .error .malformed
  | fuel + 1, close, reader => do
      match ← reader.peek with
      | .value =>
          readUnless fuel (fun token => token == .flowEntry || token == close) .flow reader.drop
      | _ => .ok (empty, reader)

/-- Reads the items of a flow sequence.  An item that is marked as a key is a mapping of one
entry. -/
def readFlowItems : Nat → Bool → Reader → Except Fault (List Node × Reader)
  | 0, _, _ => .error .malformed
  | fuel + 1, itemNext, reader => do
      match ← reader.peek, itemNext with
      | .flowSequenceEnd, _ => .ok ([], reader.drop)
      | .flowEntry, false => readFlowItems fuel true reader.drop
      | _, false => .error .malformed
      | .key, true => do
          let ends (token : Token) : Bool :=
            token == .value || token == .flowEntry || token == .flowSequenceEnd
          let (key, afterKey) ← readUnless fuel ends .flow reader.drop
          let (value, afterValue) ← readFlowValue fuel .flowSequenceEnd afterKey
          let (items, finish) ← readFlowItems fuel false afterValue
          .ok (.mapping .mapping [(key, value)] :: items, finish)
      | _, true => do
          let (item, after) ← read fuel .flow reader
          let (items, finish) ← readFlowItems fuel false after
          .ok (item :: items, finish)

/-- Reads the entries of a flow mapping.  A node without a colon is a key with an empty value. -/
def readFlowEntries : Nat → Bool → Reader → Except Fault (List (Node × Node) × Reader)
  | 0, _, _ => .error .malformed
  | fuel + 1, itemNext, reader => do
      match ← reader.peek, itemNext with
      | .flowMappingEnd, _ => .ok ([], reader.drop)
      | .flowEntry, false => readFlowEntries fuel true reader.drop
      | _, false => .error .malformed
      | .key, true => do
          let ends (token : Token) : Bool :=
            token == .value || token == .flowEntry || token == .flowMappingEnd
          let (key, afterKey) ← readUnless fuel ends .flow reader.drop
          let (value, afterValue) ← readFlowValue fuel .flowMappingEnd afterKey
          let (entries, finish) ← readFlowEntries fuel false afterValue
          .ok ((key, value) :: entries, finish)
      | _, true => do
          let (key, after) ← read fuel .flow reader
          let (entries, finish) ← readFlowEntries fuel false after
          .ok ((key, empty) :: entries, finish)

end

end Node

end EntityForge.Yaml
