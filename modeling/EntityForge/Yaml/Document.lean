import EntityForge.Yaml.Node

/-!
# Documents

A stream holds at most one document: its directives, then one node.  Cycles of aliases are
unrolled as far as any reader of the data looks.
-/

namespace EntityForge.Yaml

namespace Node

mutual

/-- The tree with every cycle replaced by a node. -/
def expand (resolve : String → Node) : Node → Node
  | .scalar tag text => .scalar tag text
  | .sequence tag items => .sequence tag (expandItems resolve items)
  | .mapping tag entries => .mapping tag (expandEntries resolve entries)
  | .cycle anchor => resolve anchor

def expandItems (resolve : String → Node) : List Node → List Node
  | [] => []
  | item :: rest => expand resolve item :: expandItems resolve rest

def expandEntries (resolve : String → Node) : List (Node × Node) → List (Node × Node)
  | [] => []
  | (key, value) :: rest =>
      (expand resolve key, expand resolve value) :: expandEntries resolve rest

end

/-- The tree with every cycle followed a number of times, and an empty mapping at its end. -/
def unroll (anchors : List (String × Option Node)) : Nat → Node → Node
  | 0, node => node.expand fun _ => .mapping .mapping []
  | count + 1, node =>
      node.expand fun name =>
        match anchors.lookup name with
        | some (some target) => unroll anchors count target
        | _ => .mapping .mapping []

end Node

/-- How often a cycle is followed.  It is more than the depth of any model. -/
def cycleDepth : Nat := 8

/-- The handles of tags that need no directive. -/
def standardHandles : List (String × String) :=
  [("!", "!"), ("!!", standardStart)]

/-- Takes the directives of a document and gives the handles in force.  A version must be the first
and only one, and a handle must not be declared twice. -/
def takeDirectives (hasVersion : Bool) (handles : List (String × String)) :
    List Token → Except Fault (List (String × String) × List Token)
  | .directive (.version major) :: rest =>
      if hasVersion || major != 1 then .error .malformed else takeDirectives true handles rest
  | .directive (.tag handle start) :: rest =>
      if (handles.lookup handle).isSome then .error .malformed
      else takeDirectives hasVersion ((handle, start) :: handles) rest
  | .directive .unknown :: rest => takeDirectives hasVersion handles rest
  | rest => .ok (handles ++ standardHandles, rest)

/-- Whether a token ends the content of a document. -/
def Token.endsDocument : Token → Bool
  | .directive _ | .documentStart | .documentEnd | .streamEnd => true
  | _ => false

/-- The content of a document that is marked as such, or nothing at the end of the stream. -/
def readMarkedDocument (stream : TokenStream) : Except Fault (Option (Node × Node.Reader)) := do
  let tokens := stream.tokens.dropWhile (· == .documentEnd)
  if tokens.head? == some .streamEnd then
    return none
  let (handles, afterDirectives) ← takeDirectives false [] tokens
  let start : Node.Reader := ⟨{ stream with tokens := afterDirectives }, handles, []⟩
  if (← start.peek) != .documentStart then
    throw .malformed
  some <$> Node.readUnless (4 * stream.tokens.length + 8) Token.endsDocument .block start.drop

/-- The content of the first document of a stream, which needs no mark. -/
def readDocument (stream : TokenStream) : Except Fault (Option (Node × Node.Reader)) := do
  let reader : Node.Reader := ⟨stream, standardHandles, []⟩
  match ← reader.peek with
  | .directive _ | .documentStart | .streamEnd => readMarkedDocument stream
  | _ => some <$> Node.read (4 * stream.tokens.length + 8) .block reader

/-- The node of a stream that holds no more than one document. -/
def readSingle (stream : TokenStream) : Except Fault (Option Node) := do
  match ← readDocument stream with
  | none => return none
  | some (node, reader) =>
      let _ ← reader.peek
      match ← readMarkedDocument reader.stream with
      | none => return some (node.unroll reader.anchors cycleDepth)
      | some _ => throw .malformed

end EntityForge.Yaml
