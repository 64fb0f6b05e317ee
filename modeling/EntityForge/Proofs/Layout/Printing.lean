import EntityForge.Proofs.Layout.Levels
import EntityForge.Proofs.Layout.Line

/-!
# Writers that print lines

Operations that only add whole lines, in blocks inside each other, print lines with a depth.  A
writer that runs them from the start of a line comes back to its level and to the start of a line,
has been refused nothing, and has added the lines to its text, indented by its own level as well as
by theirs.  Line feeds in a text that is added as one line begin lines of the same depth.
-/

namespace EntityForge.Layout

/-! ## Indented lines -/

theorem indented_nil (unit base : Nat) : indented unit base [] = "" :=
  rfl

theorem indented_append (unit base : Nat) (lines more : List Line) :
    indented unit base (lines ++ more) = indented unit base lines ++ indented unit base more := by
  rw [indented, List.map_append, Text.join_append, indented, indented]

theorem indented_flat (unit base : Nat) (text : Text) :
    indented unit base [.flat text] =
      if text.isEmpty then ("\n" : Text)
      else Text.ofList (List.replicate (unit * base) (.scalar ' ')) ++ text ++ "\n" := by
  simp [indented, Line.flat, Text.join_cons]

/-- Nested lines are those that stand one level deeper. -/
theorem indented_nest (unit base : Nat) (lines : List Line) :
    indented unit base (nest lines) = indented unit (base + 1) lines := by
  have deeper (line : Line) : line.nested.depth + base = line.depth + (base + 1) :=
    Nat.add_right_comm line.depth 1 base
  rw [indented, indented, nest, List.map_map]
  simp only [Function.comp_def, deeper]
  rfl

/-! ## Lines of a writer -/

/-- Whether a writer has gone on from another one by whole lines. -/
structure Writer.HasPrinted (before : Writer) (lines : List Line) (after : Writer) : Prop where
  unit : after.unit = before.unit
  level : after.level = before.level
  atLineStart : after.atLineStart = true
  text : after.text = before.text ++ indented before.unit before.level lines

namespace Writer.HasPrinted

variable {before middle after : Writer} {lines more : List Line}

theorem none (fresh : before.atLineStart = true) : before.HasPrinted [] before :=
  ⟨rfl, rfl, fresh, by rw [indented_nil, Text.append_empty]⟩

theorem trans (first : before.HasPrinted lines middle) (second : middle.HasPrinted more after) :
    before.HasPrinted (lines ++ more) after where
  unit := second.unit.trans first.unit
  level := second.level.trans first.level
  atLineStart := second.atLineStart
  text := by
    rw [second.text, first.text, first.unit, first.level, indented_append, Text.append_assoc]

/-- A piece with its line feed is a line. -/
theorem piece (fresh : before.atLineStart = true) (text : Text) :
    before.HasPrinted [.flat text] (before.appendPiece text).newline := by
  by_cases empty : text = ""
  · rw [empty]
    exact ⟨rfl, rfl, rfl, before.text_newline⟩
  · have indentation : before.spaces = before.unit * before.level := by
      rw [Writer.spaces, if_pos fresh]
    have printed := before.text_appendPiece_of_ne empty
    rw [appendPiece_of_ne before empty] at printed ⊢
    refine ⟨before.unit_indent, before.level_indent, rfl, ?_⟩
    rw [text_newline, printed, indentation, indented_flat, if_neg (by simpa using empty)]
    simp only [Text.append_assoc]

theorem pieces (fresh : before.atLineStart = true) {pieces : List Text}
    (nonempty : pieces ≠ []) :
    before.HasPrinted (pieces.map Line.flat) (before.appendPieces pieces).newline := by
  induction pieces generalizing before with
  | nil => exact absurd rfl nonempty
  | cons text rest ih =>
      cases rest with
      | nil => exact piece fresh text
      | cons next others => exact (piece fresh text).trans (ih rfl (List.cons_ne_nil next others))

/-- A text that is added as one line is as many lines as its line feeds make of it. -/
theorem line (fresh : before.atLineStart = true) (text : Text) :
    before.HasPrinted (Line.ofText text) (before.appendLine text) := by
  have nonempty : Text.lines text ≠ [] := by
    simpa [Text.lines, Text.pieces] using Text.splitOn_ne_nil '\n' text.toList
  exact pieces fresh nonempty

/-- What is printed one level deeper is nested. -/
theorem leave (inside : before.increase.HasPrinted lines after) :
    before.HasPrinted (nest lines) { after with level := before.level } where
  unit := inside.unit
  level := rfl
  atLineStart := inside.atLineStart
  text := by
    rw [indented_nest]
    exact inside.text

end Writer.HasPrinted

/-! ## Operations that print lines -/

namespace Command

/-- Operations that add whole lines, and the lines. -/
inductive Print : List Command → List Line → Prop where
  | nil : Print [] []
  | line (text : Text) {rest : List Command} {lines : List Line} :
      Print rest lines → Print (.appendLine text :: rest) (Line.ofText text ++ lines)
  | block {body rest : List Command} {inside lines : List Line} :
      Print body inside → Print rest lines →
      Print (.block body none :: rest) (nest inside ++ lines)

namespace Print

variable {commands more : List Command} {lines others : List Line}

theorem append (first : Print commands lines) (second : Print more others) :
    Print (commands ++ more) (lines ++ others) := by
  induction first with
  | nil => exact second
  | line text _ ih =>
      rw [List.append_assoc]
      exact .line text ih
  | block body _ _ ih =>
      rw [List.append_assoc]
      exact .block body ih

/-- The run of a writer prints the lines, and nothing is refused. -/
theorem hasPrinted_runAll (prints : Print commands lines) {writer : Writer}
    (fresh : writer.atLineStart = true) :
    writer.HasPrinted lines (runAll writer commands).1 ∧
      ∀ step ∈ (runAll writer commands).2, step.refusal = none := by
  induction prints generalizing writer with
  | nil => exact ⟨.none fresh, fun _ absent => absurd absent List.not_mem_nil⟩
  | line text _ ih =>
      have here := Writer.HasPrinted.line fresh text
      obtain ⟨later, accepted⟩ := ih here.atLineStart
      rw [runAll_cons]
      exact ⟨here.trans later, List.forall_mem_cons.mpr ⟨rfl, accepted⟩⟩
  | block _ _ ihBody ih =>
      obtain ⟨inside, acceptedInside⟩ := @ihBody writer.increase fresh
      have left := run_block_of_succ inside.level none
      have here := inside.leave
      obtain ⟨later, accepted⟩ := ih here.atLineStart
      rw [runAll_cons, stepsOf, left]
      refine ⟨here.trans later, ?_⟩
      simp only [List.forall_mem_append, List.forall_mem_singleton]
      exact ⟨⟨acceptedInside, rfl⟩, accepted⟩

end Print

end Command

end EntityForge.Layout
