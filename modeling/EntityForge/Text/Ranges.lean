/-!
# Ranges of code points

A character class beyond ASCII is a list of closed intervals of code points, as the tables of the
Unicode standard print it.
-/

namespace EntityForge.Text

/-- Whether a code point lies in one of the closed intervals. -/
def inRanges (ranges : List (Nat × Nat)) (code : Nat) : Bool :=
  ranges.any fun range => range.1 ≤ code && code ≤ range.2

end EntityForge.Text
