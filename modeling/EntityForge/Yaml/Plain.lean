import EntityForge.Yaml.Quoted

/-!
# Plain scalars

Scalars without quotes.  They end at a colon that is set apart, at a comment, at an indicator of a
surrounding flow collection, or on a line that is indented too little.
-/

namespace EntityForge.Yaml

/-- A plain scalar and what follows it. -/
structure Plain where
  text : List Char
  after : Cursor
  /-- Whether a line break follows the scalar. -/
  atLineEnd : Bool

/-- Whether a character separates the parts of a flow collection. -/
def isFlowIndicator (character : Char) : Bool :=
  character == ',' || character == '[' || character == ']' || character == '\x7b' ||
    character == '\x7d'

/-- The length of the part of a plain scalar up to the next space. -/
def plainLength (inFlow : Bool) : List Char → Nat
  | [] => 0
  | character :: rest =>
      let ends :=
        separates (some character) ||
          (character == ':' &&
            (separates rest.head? || (inFlow && rest.head?.any isFlowIndicator))) ||
          (inFlow && (character == '?' || isFlowIndicator character))
      if ends then 0 else plainLength inFlow rest + 1

/-- The breaks and spaces at the start of lines, of which only the breaks are kept.  A mark between
documents ends them without a result. -/
def plainBreaks : Nat → Cursor → Option (List Char) × Cursor
  | 0, cursor => (some [], cursor)
  | fuel + 1, cursor =>
      if cursor.peek 0 == some ' ' then
        plainBreaks fuel cursor.next
      else
        match cursor.lineBreak with
        | ([], _) => (some [], cursor)
        | (taken, after) =>
            if after.atDocumentMark then (none, after)
            else
              let (more, finish) := plainBreaks fuel after
              (more.map (taken ++ ·), finish)

/-- The space after a part of a plain scalar: what it becomes when another part follows, the place
after it, and whether it holds a line break. -/
def plainSpace (cursor : Cursor) : List Char × Cursor × Bool :=
  let (gap, atText) := cursor.takeWhile (· == ' ')
  match atText.lineBreak with
  | ([], _) => (gap, atText, false)
  | (first, after) =>
      if after.atDocumentMark then ([], after, true)
      else
        match plainBreaks (after.rest.length + 1) after with
        | (none, finish) => ([], finish, true)
        | (some more, finish) => (folded first more, finish, true)

/-- Reads a plain scalar whose continuation lines are indented by at least `indent`.  The text read
so far is in reverse, `space` is what stands before the next part. -/
def plainParts (inFlow : Bool) (indent : Int) :
    Nat → Cursor → List Char → List Char → Bool → Plain
  | 0, cursor, read, _, atLineEnd => ⟨read.reverse, cursor, atLineEnd⟩
  | fuel + 1, cursor, read, space, atLineEnd =>
      let length := plainLength inFlow cursor.rest
      if cursor.peek 0 == some '#' || length = 0 then
        ⟨read.reverse, cursor, atLineEnd⟩
      else
        let read := (cursor.rest.take length).reverse ++ space.reverse ++ read
        let (space, after, broken) := plainSpace (cursor.skip length)
        if space.isEmpty || after.peek 0 == some '#' || (!inFlow && after.column < indent) then
          ⟨read.reverse, after, broken⟩
        else
          plainParts inFlow indent fuel after read space broken

/-- Reads a plain scalar. -/
def plainScalar (inFlow : Bool) (indent : Int) (cursor : Cursor) : Plain :=
  plainParts inFlow indent (cursor.rest.length + 1) cursor [] [] false

end EntityForge.Yaml
