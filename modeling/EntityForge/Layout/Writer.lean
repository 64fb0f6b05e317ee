import EntityForge.Text.Split

/-!
# Indenting writers

A writer accumulates text piece by piece at a changing level of indentation.  A line is indented
when its first text arrives, with the level that is in force then; lines that are written are
never indented again, and blank lines carry no spaces.
-/

namespace EntityForge.Layout

/-- A text under construction. -/
structure Writer where
  /-- The number of spaces per level. -/
  unit : Nat := 4
  level : Nat := 0
  /-- The texts that were added, the latest first. -/
  parts : List Text := []
  /-- Whether the current line is still without text. -/
  atLineStart : Bool := true
  deriving DecidableEq, Repr

namespace Writer

/-- Why an operation was refused. -/
inductive Refusal where
  | negativeUnit (size : Int)
  | levelBelowZero
  /-- The failure of a block's body. -/
  | failedBody (message : Text)
  deriving BEq, DecidableEq, Repr

/-- The wording of a refusal. -/
def Refusal.message : Refusal → Text
  | .negativeUnit size => s!"indent_size must be >= 0, got {size}."
  | .levelBelowZero => "Cannot decrement indentation below zero."
  | .failedBody message => message

/-- A fresh writer with a given number of spaces per level. -/
def ofUnit (size : Int) : Except Refusal Writer :=
  if size < 0 then .error (.negativeUnit size) else .ok { unit := size.toNat }

/-- The text so far. -/
def text (writer : Writer) : Text :=
  Text.join writer.parts.reverse

/-- The number of characters so far. -/
def length (writer : Writer) : Nat :=
  writer.parts.foldr (fun part count => count + part.length) 0

/-- Adds a part as it stands. -/
def push (writer : Writer) (part : Text) : Writer :=
  { writer with parts := part :: writer.parts }

/-- Begins a new line. -/
def newline (writer : Writer) : Writer :=
  { writer.push "\n" with atLineStart := true }

/-- Indents the current line, unless it has text. -/
def indent (writer : Writer) : Writer :=
  if writer.atLineStart then
    { writer.push (Text.ofList (List.replicate (writer.unit * writer.level) ' ')) with
      atLineStart := false }
  else writer

/-- Adds text without a line feed to the current line. -/
def appendPiece (writer : Writer) (piece : Text) : Writer :=
  if piece.isEmpty then writer else writer.indent.push piece

/-- Adds pieces of text with line feeds between them. -/
def appendPieces (writer : Writer) : List Text → Writer
  | [] => writer
  | [piece] => writer.appendPiece piece
  | piece :: rest => (writer.appendPiece piece).newline.appendPieces rest

/-- Adds text.  Its line feeds begin new lines. -/
def append (writer : Writer) (text : Text) : Writer :=
  writer.appendPieces (Text.lines text)

/-- Adds text and a line feed. -/
def appendLine (writer : Writer) (text : Text) : Writer :=
  (writer.append text).newline

/-- Goes one level deeper. -/
def increase (writer : Writer) : Writer :=
  { writer with level := writer.level + 1 }

/-- Goes one level back, unless there is none. -/
def decrease (writer : Writer) : Except Refusal Writer :=
  match writer.level with
  | 0 => .error .levelBelowZero
  | level + 1 => .ok { writer with level }

/-- Drops all text and all levels. -/
def clear (writer : Writer) : Writer :=
  { unit := writer.unit }

/-- A description with the level and the number of characters. -/
def describe (writer : Writer) : Text :=
  s!"<CodeBuilder level={writer.level} chars={writer.length}>"

end Writer

/-- An operation on a writer. -/
inductive Command where
  | append (text : Text)
  | appendLine (text : Text)
  | increase
  | decrease
  | clear
  /-- Runs a body one level deeper and leaves the level afterwards, also when the body fails in
  the end with a message. -/
  | block (body : List Command) (failure : Option Text)

/-- What is to be seen of a writer after an operation, and how the operation was refused. -/
structure Step where
  writer : Writer
  refusal : Option Writer.Refusal

namespace Command

mutual

/-- Runs an operation.  The result is the writer afterwards, the steps of the operations inside
it, and the refusal, after which the writer stays as it is. -/
def run (writer : Writer) : Command → Writer × List Step × Option Writer.Refusal
  | .append text => (writer.append text, [], none)
  | .appendLine text => (writer.appendLine text, [], none)
  | .increase => (writer.increase, [], none)
  | .decrease =>
      match writer.decrease with
      | .ok lower => (lower, [], none)
      | .error refusal => (writer, [], some refusal)
  | .clear => (writer.clear, [], none)
  | .block body failure =>
      let (inside, steps) := runAll writer.increase body
      match inside.decrease with
      | .ok lower => (lower, steps, failure.map .failedBody)
      | .error refusal => (inside, steps, some refusal)

/-- Runs operations one after the other and shows a step after each.  A refusal does not end the
run. -/
def runAll (writer : Writer) : List Command → Writer × List Step
  | [] => (writer, [])
  | command :: rest =>
      let (after, inside, refusal) := run writer command
      let (final, later) := runAll after rest
      (final, inside ++ ⟨after, refusal⟩ :: later)

end

end Command

end EntityForge.Layout
