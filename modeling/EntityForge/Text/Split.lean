import EntityForge.Text.Basic

/-!
# Splitting texts

Cutting a text at a separator, at its last separator, and into lines.  The pieces joined with the
separator are the text again, so that nothing is lost.
-/

namespace EntityForge.Text

/-- The pieces between the occurrences of a separator.  A text without the separator is one piece,
also when it is empty. -/
def splitOn (separator : Point) : List Point → List (List Point)
  | [] => [[]]
  | character :: rest =>
      if character = separator then
        [] :: splitOn separator rest
      else
        match splitOn separator rest with
        | [] => [[character]]
        | piece :: pieces => (character :: piece) :: pieces

/-- The pieces of a text between the occurrences of a separator. -/
def pieces (separator : Point) (text : Text) : List Text :=
  (splitOn separator text.toList).map Text.ofList

/-- The physical lines of a text: line feeds separate them. -/
def lines (text : Text) : List Text :=
  pieces '\n' text

/-- The number of lines of a text.  A line feed at the very end begins no further line. -/
def lineCount (text : Text) : Nat :=
  if text.isEmpty then
    0
  else
    text.toList.count (.scalar '\n') + if text.toList.getLast? == some (.scalar '\n') then 0 else 1

/-- The parts before and after the last separator.  Without one, all of the text is after it. -/
def splitLast (separator : Point) : List Point → List Point × List Point
  | [] => ([], [])
  | character :: rest =>
      if rest.contains separator then
        let (before, after) := splitLast separator rest
        (character :: before, after)
      else if character = separator then
        ([], rest)
      else
        ([], character :: rest)

theorem splitOn_ne_nil (separator : Point) (text : List Point) : splitOn separator text ≠ [] := by
  cases text with
  | nil => simp [splitOn]
  | cons character rest =>
      rw [splitOn]
      split
      · simp
      · split <;> simp

/-- Joining the pieces with the separator gives the text back. -/
theorem intercalate_splitOn (separator : Point) (text : List Point) :
    [separator].intercalate (splitOn separator text) = text := by
  induction text with
  | nil => rfl
  | cons character rest ih =>
      have nonempty := splitOn_ne_nil separator rest
      rw [splitOn]
      split
      · rename_i same
        cases pieces : splitOn separator rest with
        | nil => exact absurd pieces nonempty
        | cons piece more =>
            rw [pieces] at ih
            simp [List.intercalate, List.intersperse] at ih ⊢
            exact ⟨same.symm, ih⟩
      · cases pieces : splitOn separator rest with
        | nil => exact absurd pieces nonempty
        | cons piece more =>
            rw [pieces] at ih
            cases more with
            | nil => simpa [List.intercalate] using ih
            | cons next others =>
                simp [List.intercalate, List.intersperse] at ih ⊢
                exact ih

end EntityForge.Text
