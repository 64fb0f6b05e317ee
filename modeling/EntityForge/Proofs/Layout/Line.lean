import EntityForge.Text.Split

/-!
# Lines with depth

Generated code as a list of lines, each with the depth of nesting at which it stands.  How many
spaces a level takes is decided only when the lines are rendered, and blank lines never carry
spaces.
-/

namespace EntityForge.Layout

/-- A line of code.  Its text has no line feed. -/
structure Line where
  depth : Nat
  text : Text
  deriving BEq, DecidableEq, Repr

namespace Line

/-- A line that is not nested. -/
def flat (text : Text) : Line := ⟨0, text⟩

/-- The blank line. -/
def blank : Line := ⟨0, ""⟩

/-- The line one level deeper. -/
def nested (line : Line) : Line := { line with depth := line.depth + 1 }

/-- The lines of a text that may hold line feeds, all at one depth. -/
def ofText (text : Text) : List Line :=
  (Text.lines text).map flat

/-- The line with its indentation, of `unit` spaces a level, and its line feed. -/
def render (unit : Nat) (line : Line) : Text :=
  if line.text.isEmpty then "\n"
  else Text.ofList (List.replicate (unit * line.depth) ' ') ++ line.text ++ "\n"

end Line

/-- Lines one level deeper. -/
def nest (lines : List Line) : List Line :=
  lines.map Line.nested

/-- Lines between braces of their own. -/
def braced (lines : List Line) : List Line :=
  .flat "\x7b" :: nest lines ++ [.flat "\x7d"]

/-- The text of lines. -/
def render (unit : Nat) (lines : List Line) : Text :=
  Text.join (lines.map (Line.render unit))

/-- The text of lines that stand `base` levels deeper, with `unit` spaces a level.  Lines without
text carry no spaces. -/
def indented (unit base : Nat) (lines : List Line) : Text :=
  Text.join (lines.map fun line =>
    if line.text.isEmpty then "\n"
    else Text.ofList (List.replicate (unit * (line.depth + base)) ' ') ++ line.text ++ "\n")

end EntityForge.Layout
