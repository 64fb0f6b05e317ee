/-!
# Line ends

Texts from files end their lines in several ways.  They are read with line feeds only.
-/

namespace EntityForge.Text

/-- The characters with every carriage return, alone or before a line feed, read as a line feed. -/
def unifyNewlines : List Char → List Char
  | '\r' :: '\n' :: rest => '\n' :: unifyNewlines rest
  | '\r' :: rest => '\n' :: unifyNewlines rest
  | character :: rest => character :: unifyNewlines rest
  | [] => []

end EntityForge.Text
