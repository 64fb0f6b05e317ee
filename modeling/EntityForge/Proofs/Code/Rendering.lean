import EntityForge.Proofs.Code.Annotation
import EntityForge.Proofs.Layout.Printing

/-!
# Classes as they are written

The operations that write a class file print its lines: those that are meant to be single are, and
the line feeds of a documented name fall into lines of their own.  So the text of a class, as the
writer leaves it, is that of its rendered lines.
-/

namespace EntityForge

open EntityForge.Identifier
open EntityForge.Layout

/-! ## Lines that are split -/

namespace Layout

/-- The lines into which the line feeds of a line split it. -/
def Line.split (line : Line) : List Line :=
  (Text.lines line.text).map fun text => ⟨line.depth, text⟩

/-- Lines that are split at their line feeds. -/
def split (lines : List Line) : List Line :=
  lines.flatMap Line.split

theorem split_cons (line : Line) (rest : List Line) :
    split (line :: rest) = line.split ++ split rest :=
  rfl

theorem split_append (lines more : List Line) : split (lines ++ more) = split lines ++ split more :=
  List.flatMap_append

theorem split_nest (lines : List Line) : split (nest lines) = nest (split lines) := by
  have nested (line : Line) : line.nested.split = nest line.split := by
    rw [Line.split, Line.split, nest, List.map_map]
    rfl
  induction lines with
  | nil => rfl
  | cons line rest ih =>
      have first : nest (line :: rest) = line.nested :: nest rest := rfl
      have joined : nest (line.split ++ split rest) = nest line.split ++ nest (split rest) :=
        List.map_append
      rw [first, split_cons, split_cons, joined, nested, ih]

/-- Lines without line feeds of their own are not split. -/
theorem split_of_isSingle {lines : List Line} (single : ∀ line ∈ lines, line.IsSingle) :
    split lines = lines := by
  induction lines with
  | nil => rfl
  | cons line rest ih =>
      rw [List.forall_mem_cons] at single
      have whole : Text.lines line.text = [line.text] := by
        rw [Text.lines, Text.pieces, Text.splitOn_of_notMem single.1, List.map_singleton,
          Text.ofList_toList]
      rw [split_cons, ih single.2, Line.split, whole]
      rfl

theorem isSingle_ofText (text : Text) : ∀ line ∈ Line.ofText text, line.IsSingle := by
  refine List.forall_mem_map.mpr (List.forall_mem_map.mpr fun piece listed => ?_)
  rw [Line.IsSingle, Line.flat, Text.toList_ofList]
  exact Text.notMem_of_mem_splitOn listed

end Layout

/-! ## Operations that write lines -/

namespace Layout.Command

/-- Whether operations print lines, split at their line feeds. -/
def Writes (commands : List Command) (lines : List Line) : Prop :=
  Print commands (split lines)

namespace Writes

variable {commands more : List Command} {lines others : List Line}

theorem nil : Writes [] [] :=
  Print.nil

theorem cons (text : Text) (writes : Writes commands lines) :
    Writes (.appendLine text :: commands) (.flat text :: lines) :=
  .line text writes

theorem blank (writes : Writes commands lines) :
    Writes (.appendLine "" :: commands) (.blank :: lines) :=
  .cons "" writes

theorem append (first : Writes commands lines) (second : Writes more others) :
    Writes (commands ++ more) (lines ++ others) := by
  rw [Writes, split_append]
  exact Print.append first second

theorem flatMap {α : Type} {items : List α} {commandsOf : α → List Command}
    {linesOf : α → List Line} (each : ∀ item, Writes (commandsOf item) (linesOf item)) :
    Writes (items.flatMap commandsOf) (items.flatMap linesOf) := by
  induction items with
  | nil => exact .nil
  | cons item rest ih =>
      rw [List.flatMap_cons, List.flatMap_cons]
      exact (each item).append ih

/-- A line for each of several texts. -/
theorem map {α : Type} (items : List α) (textOf : α → Text) :
    Writes (items.map fun item => .appendLine (textOf item))
      (items.map fun item => .flat (textOf item)) := by
  induction items with
  | nil => exact .nil
  | cons item rest ih => exact .cons _ ih

theorem block (inside : Writes commands lines) (later : Writes more others) :
    Writes (.block commands none :: more) (nest lines ++ others) := by
  rw [Writes, split_append, split_nest]
  exact Print.block inside later

theorem nested (text : Text) :
    Writes [.block [.appendLine text] none] (nest [.flat text]) := by
  have print := block (.cons text .nil) .nil
  rw [List.append_nil] at print
  exact print

theorem braced (inside : Writes commands lines) :
    Writes (writeBraced commands) (Layout.braced lines) :=
  .cons _ (.block inside (.cons _ .nil))

theorem region (title : Text) (inside : Writes commands lines) :
    Writes (writeRegion title commands) (EntityForge.region title lines) :=
  .cons _ (inside.append (.cons _ .nil))

/-- A text of several lines can be added as one. -/
theorem text (text : Text) : Writes [.appendLine text] (Line.ofText text) := by
  have print := Print.line text .nil
  rw [List.append_nil] at print
  rw [Writes, split_of_isSingle (isSingle_ofText text)]
  exact print

theorem documentation (summary value : Text) (seeAlso : List Text) :
    Writes (writeDocumentation summary value seeAlso)
      (EntityForge.documentation summary value seeAlso) := by
  have links :
      Writes (seeAlso.map fun name => .appendLine ("/// <seealso cref=\"" ++ name ++ "\" />"))
      (seeAlso.flatMap fun name => Line.ofText ("/// <seealso cref=\"" ++ name ++ "\" />")) := by
    rw [List.map_eq_flatMap]
    exact flatMap fun name => text _
  have framed (opening middle closing : Text) :
      Writes [.appendLine opening, .appendLine middle, .appendLine closing]
        (Line.ofText opening ++ Line.ofText middle ++ Line.ofText closing) :=
    ((text opening).append (text middle)).append (text closing)
  refine ((framed _ _ _).append ?_).append links
  split
  next => exact .nil
  next => exact framed _ _ _

end Writes

end Layout.Command

open Layout.Command (Writes)

/-- Documentation is written on demand. -/
theorem writes_documentation_if (document : Bool) (summary value : Text)
    (seeAlso : List Text) :
    Writes (if document then writeDocumentation summary value seeAlso else [])
      (if document then documentation summary value seeAlso else []) := by
  cases document with
  | true => exact .documentation summary value seeAlso
  | false => exact .nil

theorem Member.writes_lines (document : Bool) (member : Member) :
    Writes (member.write document) (member.lines document) :=
  (writes_documentation_if document _ _ _).append (.cons _ .nil)

theorem Member.writes_adapterLines (member : Member) :
    Writes member.writeAdapter member.adapterLines :=
  .cons _ (.braced (.cons _ (.cons _ .nil)))

namespace Entity

theorem writes_constructorLines (entity : Entity) (document : Bool)
    (initializers : List (Text × Text)) :
    Writes (entity.writeConstructor document initializers)
      (entity.constructorLines document initializers) :=
  (writes_documentation_if document _ _ _).append (.cons _ (.braced (.region _ (.map _ _))))

theorem writes_baseLines (entity : Entity) : Writes entity.writeBase entity.baseLines := by
  rw [writeBase, baseLines]
  cases entity.baseClass? with
  | some base => exact .nested _
  | none => exact .nil

theorem writes_classLines (entity : Entity) (document : Bool) (plan : ClassPlan) :
    Writes (entity.writeClass document plan) (entity.classLines document plan) := by
  have constructor := entity.writes_constructorLines document plan.initializers
  have properties : Writes (plan.properties.flatMap (Member.write document))
      (plan.properties.flatMap (Member.lines document)) :=
    .flatMap (Member.writes_lines document)
  have relationships : Writes (plan.relationships.flatMap (Member.write document))
      (plan.relationships.flatMap (Member.lines document)) :=
    .flatMap (Member.writes_lines document)
  have identity : Writes (plan.identity.flatMap Member.writeAdapter)
      (plan.identity.flatMap Member.adapterLines) :=
    .flatMap Member.writes_adapterLines
  have documented := writes_documentation_if document
    ("Entity class representing data for table '" ++ entity.documentedTable ++ "'.") "" []
  have heading := Writes.cons ("public partial class " ++ entity.className) entity.writes_baseLines
  have body := ((constructor.append (properties.region "Generated Properties").blank).append
    (relationships.region "Generated Relationships").blank).append
    (identity.region "Generated IIdentifiable Properties").blank
  exact (documented.append heading).append body.braced

theorem writes_fileLines (entity : Entity) (fileScoped : Bool) {commands : List Command}
    {lines : List Line} (writes : Writes commands lines) :
    Writes (entity.writeFile fileScoped commands) (entity.fileLines fileScoped lines) := by
  cases fileScoped with
  | true => exact .cons _ writes.blank
  | false => exact .cons _ writes.braced

/-! ## The text of a class -/

variable {entity : Entity} {options : GeneratorOptions}

/-- The writer of a file prints its lines, comes back to the outermost level, and is refused
nothing. -/
theorem hasPrinted_fileLines {nullableMode : Bool} {plan : ClassPlan}
    (planned : entity.plan nullableMode = .ok plan) (fileScoped document : Bool) (unit : Nat) :
    let commands := entity.writeFile fileScoped (entity.writeClass document plan)
    let (last, steps) := Command.runAll { unit } commands
    Writer.HasPrinted { unit } (entity.fileLines fileScoped (entity.classLines document plan))
        last ∧
      ∀ step ∈ steps, step.refusal = none := by
  have writes := entity.writes_fileLines fileScoped (entity.writes_classLines document plan)
  rw [Writes, split_of_isSingle (isSingle_fileLines planned fileScoped document)] at writes
  exact writes.hasPrinted_runAll rfl

/-- The text of a class is its rendered plan. -/
theorem synthesize_eq_ok_iff {code : Text} :
    entity.synthesize options = .ok code ↔
      entity.IsValid ∧ ∃ plan, entity.plan options.nullable = .ok plan ∧
        code = render options.indentSize
          (entity.fileLines options.fileScopedNamespace
            (entity.classLines options.document plan)) := by
  rw [synthesize_eq_ok_iff_text]
  refine and_congr_right fun _ => exists_congr fun plan => and_congr_right fun planned => ?_
  have printed := (hasPrinted_fileLines planned options.fileScopedNamespace options.document
    options.indentSize).1.text
  have fresh : Writer.text { unit := options.indentSize } = "" := rfl
  rw [fresh, Text.empty_append] at printed
  rw [printed]
  rfl

end Entity

end EntityForge
