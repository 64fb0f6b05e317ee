import EntityForge.Layout.Writer
import EntityForge.Proofs.Text.Lines

/-!
# Text character by character

A writer takes a text apart at its line feeds and adds the pieces between them, each as a part of
its own.  What the parts amount to can be told character by character: adding a text agrees with a
left fold over its characters, so that nothing depends on where the parts and pieces begin and end.
-/

namespace EntityForge.Layout

namespace Writer

open Text

variable (writer : Writer)

/-! ## Parts and the text that they make -/

@[simp] theorem text_push (part : Text) : (writer.push part).text = writer.text ++ part := by
  simp [push, text, Text.join_append, Text.join_cons]

@[simp] theorem text_newline : writer.newline.text = writer.text ++ "\n" :=
  writer.text_push "\n"

/-- The parts have as many characters as the text. -/
theorem length_eq : writer.length = writer.text.length := by
  rw [length, text]
  induction writer.parts with
  | nil => rfl
  | cons part rest ih =>
      simp [ih, Text.join_append, Text.join_cons, Text.length_append]

/-- The number of spaces that come before the next text of the current line. -/
def spaces (writer : Writer) : Nat :=
  if writer.atLineStart then writer.unit * writer.level else 0

theorem text_indent :
    writer.indent.text =
      writer.text ++ Text.ofList (List.replicate writer.spaces (.scalar ' ')) := by
  rw [indent, spaces]
  split
  next => exact writer.text_push _
  next => simp

theorem atLineStart_indent : writer.indent.atLineStart = false := by
  rw [indent]
  split
  next => rfl
  next begun => simpa using begun

theorem unit_indent : writer.indent.unit = writer.unit := by
  rw [indent]
  split <;> rfl

theorem level_indent : writer.indent.level = writer.level := by
  rw [indent]
  split <;> rfl

@[simp] theorem appendPiece_empty : writer.appendPiece "" = writer :=
  rfl

theorem appendPiece_of_ne {piece : Text} (filled : piece ≠ "") :
    writer.appendPiece piece = writer.indent.push piece := by
  rw [appendPiece, if_neg (by simpa using filled)]

theorem text_appendPiece_of_ne {piece : Text} (filled : piece ≠ "") :
    (writer.appendPiece piece).text =
      writer.text ++ Text.ofList (List.replicate writer.spaces (.scalar ' ')) ++ piece := by
  rw [appendPiece_of_ne writer filled, text_push, text_indent]

theorem appendPieces_cons (piece : Text) {rest : List Text} (nonempty : rest ≠ []) :
    writer.appendPieces (piece :: rest) =
      (writer.appendPiece piece).newline.appendPieces rest := by
  obtain ⟨next, others, rfl⟩ := List.exists_cons_of_ne_nil nonempty
  rfl

/-! ## Writers that agree -/

/-- Whether two writers have the same text in whatever parts, and differ otherwise at most in
whether their current line is without text, and that only where it makes no difference, since levels
have no spaces. -/
structure Agrees (left right : Writer) : Prop where
  unit : left.unit = right.unit
  level : left.level = right.level
  text : left.text = right.text
  atLineStart : left.unit ≠ 0 → left.atLineStart = right.atLineStart

namespace Agrees

variable {left middle right : Writer}

theorem refl (writer : Writer) : Agrees writer writer :=
  ⟨rfl, rfl, rfl, fun _ => rfl⟩

theorem symm (agrees : Agrees left right) : Agrees right left where
  unit := agrees.unit.symm
  level := agrees.level.symm
  text := agrees.text.symm
  atLineStart wide := (agrees.atLineStart (agrees.unit ▸ wide)).symm

theorem trans (first : Agrees left middle) (second : Agrees middle right) : Agrees left right where
  unit := first.unit.trans second.unit
  level := first.level.trans second.level
  text := first.text.trans second.text
  atLineStart wide := (first.atLineStart wide).trans (second.atLineStart (first.unit ▸ wide))

theorem spaces (agrees : Agrees left right) : left.spaces = right.spaces := by
  rw [Writer.spaces, Writer.spaces, ← agrees.unit, ← agrees.level]
  by_cases narrow : left.unit = 0
  · rw [narrow, Nat.zero_mul, ite_self, ite_self]
  · rw [agrees.atLineStart narrow]

theorem newline (agrees : Agrees left right) : Agrees left.newline right.newline where
  unit := agrees.unit
  level := agrees.level
  text := by rw [text_newline, text_newline, agrees.text]
  atLineStart _ := rfl

theorem appendPiece (agrees : Agrees left right) (piece : Text) :
    Agrees (left.appendPiece piece) (right.appendPiece piece) := by
  by_cases empty : piece = ""
  · rw [empty, appendPiece_empty, appendPiece_empty]
    exact agrees
  · have text : (left.appendPiece piece).text = (right.appendPiece piece).text := by
      rw [text_appendPiece_of_ne left empty, text_appendPiece_of_ne right empty, agrees.text,
        agrees.spaces]
    rw [appendPiece_of_ne left empty, appendPiece_of_ne right empty] at text ⊢
    exact
      { unit := (unit_indent left).trans (agrees.unit.trans (unit_indent right).symm)
        level := (level_indent left).trans (agrees.level.trans (level_indent right).symm)
        text
        atLineStart := fun _ => (atLineStart_indent left).trans (atLineStart_indent right).symm }

theorem appendPieces (agrees : Agrees left right) (pieces : List Text) :
    Agrees (left.appendPieces pieces) (right.appendPieces pieces) := by
  induction pieces generalizing left right with
  | nil => exact agrees
  | cons piece rest ih =>
      cases rest with
      | nil => exact agrees.appendPiece piece
      | cons next others => exact ih (agrees.appendPiece piece).newline

theorem append (agrees : Agrees left right) (text : Text) :
    Agrees (left.append text) (right.append text) :=
  agrees.appendPieces _

theorem appendLine (agrees : Agrees left right) (text : Text) :
    Agrees (left.appendLine text) (right.appendLine text) :=
  (agrees.append text).newline

theorem atLevel (agrees : Agrees left right) (level : Nat) :
    Agrees { left with level } { right with level } where
  unit := agrees.unit
  level := rfl
  text := agrees.text
  atLineStart := agrees.atLineStart

theorem increase (agrees : Agrees left right) : Agrees left.increase right.increase := by
  rw [Writer.increase, Writer.increase, agrees.level]
  exact agrees.atLevel _

theorem clear (agrees : Agrees left right) : Agrees left.clear right.clear where
  unit := agrees.unit
  level := rfl
  text := rfl
  atLineStart _ := rfl

end Agrees

/-! ## Characters -/

/-- Adds a character, which begins a new line if it is a line feed. -/
def put (writer : Writer) (character : Point) : Writer :=
  if character = '\n' then writer.newline else writer.appendPiece (Text.singleton character)

theorem put_feed : writer.put '\n' = writer.newline :=
  if_pos rfl

theorem put_of_ne {character : Point} (noFeed : character ≠ '\n') :
    writer.put character = writer.appendPiece (Text.singleton character) :=
  if_neg noFeed

theorem Agrees.put {left right : Writer} (agrees : Agrees left right) (character : Point) :
    Agrees (left.put character) (right.put character) := by
  by_cases feed : character = '\n'
  · rw [feed, put_feed, put_feed]
    exact agrees.newline
  · rw [put_of_ne _ feed, put_of_ne _ feed]
    exact agrees.appendPiece _

/-- Pieces behind each other agree with one piece: only the first text of a line is indented. -/
theorem appendPiece_appendPiece (first second : Text) :
    Agrees ((writer.appendPiece first).appendPiece second)
      (writer.appendPiece (first ++ second)) := by
  by_cases emptyFirst : first = ""
  · rw [emptyFirst, appendPiece_empty, Text.empty_append]
    exact .refl _
  by_cases emptySecond : second = ""
  · rw [emptySecond, appendPiece_empty, Text.append_empty]
    exact .refl _
  have filled : first ++ second ≠ "" := by
    simp [Text.append_eq_empty_iff, emptyFirst]
  have begun : (writer.indent.push first).indent = writer.indent.push first := by
    rw [indent, push, atLineStart_indent, if_neg Bool.false_ne_true]
  rw [appendPiece_of_ne writer emptyFirst, appendPiece_of_ne _ emptySecond,
    appendPiece_of_ne writer filled, begun]
  refine ⟨rfl, rfl, ?_, fun _ => rfl⟩
  simp only [text_push, Text.append_assoc]

/-- The front of the first piece can be added ahead. -/
theorem appendPieces_append_cons (front piece : Text) (rest : List Text) :
    Agrees ((writer.appendPiece front).appendPieces (piece :: rest))
      (writer.appendPieces ((front ++ piece) :: rest)) := by
  have merged := writer.appendPiece_appendPiece front piece
  cases rest with
  | nil => exact merged
  | cons next others => exact merged.newline.appendPieces _

theorem appendPieces_splitOn (text : List Point) :
    Agrees (writer.appendPieces ((splitOn '\n' text).map Text.ofList))
      (text.foldl put writer) := by
  induction text generalizing writer with
  | nil => exact .refl writer
  | cons character rest ih =>
      have nonempty := splitOn_ne_nil '\n' rest
      rw [List.foldl_cons]
      refine .trans ?_ (ih (writer.put character))
      by_cases feed : character = '\n'
      · have more : (splitOn '\n' rest).map Text.ofList ≠ [] := by simpa using nonempty
        rw [feed, splitOn_cons_separator, List.map_cons, appendPieces_cons writer _ more, put_feed]
        exact .refl _
      · have front : Text.ofList (character :: (splitOn '\n' rest).head nonempty) =
            Text.singleton character ++ Text.ofList ((splitOn '\n' rest).head nonempty) :=
          Text.ofList_cons _ _
        have ahead := (writer.appendPieces_append_cons (Text.singleton character)
          (Text.ofList ((splitOn '\n' rest).head nonempty))
          ((splitOn '\n' rest).tail.map Text.ofList)).symm
        rw [← front, ← put_of_ne writer feed, ← List.map_cons, ← List.map_cons,
          List.cons_head_tail, ← splitOn_cons_of_ne feed] at ahead
        exact ahead

/-- Text is added character by character. -/
theorem append_agrees_foldl (text : Text) :
    Agrees (writer.append text) (text.toList.foldl put writer) :=
  writer.appendPieces_splitOn text.toList

theorem append_append (first second : Text) :
    Agrees ((writer.append first).append second) (writer.append (first ++ second)) := by
  have whole := writer.append_agrees_foldl (first ++ second)
  rw [Text.toList_append, List.foldl_append] at whole
  have front := (writer.append_agrees_foldl first).append second
  exact front.trans ((append_agrees_foldl _ second).trans whole.symm)

theorem append_feed : writer.append "\n" = writer.newline :=
  rfl

theorem appendLine_agrees_append (text : Text) :
    Agrees (writer.appendLine text) (writer.append (text ++ "\n")) := by
  have line := writer.append_append text "\n"
  rw [append_feed] at line
  exact line

end Writer

end EntityForge.Layout
