import EntityForge.Proofs.Layout.Line
import EntityForge.Proofs.Text.Lines

/-!
# Rendered lines

A list of lines and its text determine each other as far as line feeds go: where no line holds a
line feed of its own, the physical lines of the text are the lines, followed by the empty rest
behind the last line feed.
-/

namespace EntityForge.Layout

open EntityForge.Text (splitOn lines pieces lineCount splitOn_of_notMem splitOn_append_separator)

/-- The characters of a line as it stands in a file, without its line feed. -/
def Line.physical (unit : Nat) (line : Line) : List Point :=
  if line.text.isEmpty then []
  else List.replicate (unit * line.depth) (.scalar ' ') ++ line.text.toList

/-- A line without a line feed of its own. -/
def Line.IsSingle (line : Line) : Prop :=
  .scalar '\n' ∉ line.text.toList

instance (line : Line) : Decidable line.IsSingle :=
  inferInstanceAs (Decidable (.scalar '\n' ∉ line.text.toList))

/-- A text without line feeds is one line. -/
theorem Line.ofText_of_notMem {text : Text} (single : .scalar '\n' ∉ text.toList) :
    Line.ofText text = [.flat text] := by
  rw [Line.ofText, lines, pieces, splitOn_of_notMem single, List.map_singleton, Text.ofList_toList,
    List.map_singleton]

theorem Line.toList_render (unit : Nat) (line : Line) :
    (line.render unit).toList = line.physical unit ++ [.scalar '\n'] := by
  rw [Line.render, Line.physical]
  split
  · simp
  · simp [Text.toList_append]

theorem Line.notMem_physical {line : Line} (single : line.IsSingle) (unit : Nat) :
    .scalar '\n' ∉ line.physical unit := by
  rw [Line.physical]
  split
  · exact List.not_mem_nil
  · rw [List.mem_append, not_or]
    refine ⟨?_, single⟩
    intro member
    exact absurd (List.eq_of_mem_replicate member) (by decide)

theorem toList_render_nil (unit : Nat) : (render unit []).toList = [] := by
  rw [render, Text.toList_join]
  rfl

theorem toList_render_cons (unit : Nat) (line : Line) (rest : List Line) :
    (render unit (line :: rest)).toList =
      line.physical unit ++ .scalar '\n' :: (render unit rest).toList := by
  simp only [render, Text.toList_join, List.map_cons, List.flatMap_cons, Line.toList_render,
    List.append_assoc, List.singleton_append]

/-- The physical lines of rendered lines. -/
theorem splitOn_render {lines : List Line} (single : ∀ line ∈ lines, line.IsSingle)
    (unit : Nat) :
    splitOn '\n' (render unit lines).toList = lines.map (Line.physical unit) ++ [[]] := by
  induction lines with
  | nil =>
      rw [toList_render_nil]
      rfl
  | cons line rest ih =>
      have here := Line.notMem_physical (single line List.mem_cons_self) unit
      rw [toList_render_cons, splitOn_append_separator, splitOn_of_notMem here,
        ih fun other member => single other (List.mem_cons_of_mem _ member)]
      rfl

/-- Lines without line feeds can be counted in their text. -/
theorem length_eq_of_render_eq {unit : Nat} {left right : List Line}
    (leftSingle : ∀ line ∈ left, line.IsSingle) (rightSingle : ∀ line ∈ right, line.IsSingle)
    (equal : render unit left = render unit right) : left.length = right.length := by
  have split := congrArg (fun text => splitOn '\n' text.toList) equal
  simp only [splitOn_render leftSingle, splitOn_render rightSingle] at split
  simpa using congrArg List.length split

/-- Rendered lines end with a line feed. -/
theorem getLast?_render {lines : List Line} (nonempty : lines ≠ []) (unit : Nat) :
    (render unit lines).toList.getLast? = some (.scalar '\n') := by
  induction lines with
  | nil => exact absurd rfl nonempty
  | cons line rest ih =>
      rw [toList_render_cons]
      cases rest with
      | nil => simp [toList_render_nil]
      | cons next others =>
          rw [List.getLast?_append, List.getLast?_cons, ih (List.cons_ne_nil next others)]
          rfl

/-- The number of rendered lines is that of the line feeds. -/
theorem lineCount_render (unit : Nat) (lines : List Line) :
    lineCount (render unit lines) = (render unit lines).toList.count (.scalar '\n') := by
  rw [lineCount]
  split
  next empty =>
    rw [Text.isEmpty_iff.mp empty]
    rfl
  next filled =>
    have nonempty : lines ≠ [] := by
      intro isNil
      subst isNil
      exact filled rfl
    rw [getLast?_render nonempty]
    rfl

end EntityForge.Layout
