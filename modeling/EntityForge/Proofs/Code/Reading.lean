import EntityForge.Proofs.Code.Structure
import Mathlib.Data.List.DropRight

/-!
# Class files as they are read

The text of a class file, divided by its regions: the statements of the constructor, the lines of
the members with the comments before them, and the adapters.  What a class says about its members is
read from there.  Without documentation no other line looks like the mark of a region, and with it,
nothing but comments stands between the members, unless the name of a column spills out of its own.
-/

namespace EntityForge

open EntityForge.Identifier
open EntityForge.Layout

/-- The lines of a member: its comments, and its declaration. -/
structure MemberText where
  comments : List (List Point)
  declaration : List Point

/-- All lines of a member. -/
def MemberText.lines (member : MemberText) : List (List Point) :=
  member.comments ++ [member.declaration]

/-- The lines of a class file, without their indentation. -/
structure ClassText where
  /-- What stands before the region of the constructor. -/
  opening : List (List Point)
  statements : List (List Point)
  properties : List MemberText
  navigations : List MemberText
  adapters : List (List Point)
  /-- What stands behind the last region. -/
  closing : List (List Point)

/-- Lines between the marks of a region. -/
def marked (title : Text) (lines : List (List Point)) : List (List Point) :=
  ("#region " ++ title).toList :: lines ++ [("#endregion" : Text).toList]

namespace ClassText

/-- All lines of a class file. -/
def lines (text : ClassText) : List (List Point) :=
  text.opening ++ marked "Generated Constructor" text.statements ++ [("\x7d" : Text).toList, []] ++
    marked "Generated Properties" (text.properties.flatMap MemberText.lines) ++ [[]] ++
    marked "Generated Relationships" (text.navigations.flatMap MemberText.lines) ++ [[]] ++
    marked "Generated IIdentifiable Properties" text.adapters ++ text.closing

/-- The regions of a class file without comments. -/
def regions (text : ClassText) : List Region :=
  [ ⟨"Generated Constructor", text.statements⟩,
    ⟨"Generated Properties", text.properties.map (·.declaration)⟩,
    ⟨"Generated Relationships", text.navigations.map (·.declaration)⟩,
    ⟨"Generated IIdentifiable Properties", text.adapters⟩ ]

/-- Whether a class file reads as the code of an entity, with or without documentation. -/
structure IsReadFrom (text : ClassText) (entity : Entity) (document : Bool) (code : Text) :
    Prop where
  lines : (Text.splitOn '\n' code.toList).map withoutIndentation = text.lines
  heading : [("public " ++ entity.className ++ "()").toList, ("\x7b" : Text).toList] <:+
    text.opening
  closing : ∀ line ∈ text.closing, line = ("\x7d" : Text).toList ∨ line = []
  regions : document = false → HasRegions text.lines text.regions
  undocumented : document = false →
    ∀ member ∈ text.properties ++ text.navigations, member.comments = []
  properties : List.Forall₂ (fun property member => StaysInComment property.columnName →
    ∀ line ∈ member.comments, isComment line = true) entity.properties text.properties
  navigations : ∀ member ∈ text.navigations, ∀ line ∈ member.comments, isComment line = true

/-- Whether a class file shows the members of a plan, line by line. -/
structure Shows (text : ClassText) (plan : ClassPlan) : Prop where
  statements : text.statements = plan.initializers.map fun entry =>
    (Entity.initializerLine entry).content
  properties : text.properties.map (·.declaration) =
    plan.properties.map (·.declaration.text.toList)
  navigations : text.navigations.map (·.declaration) =
    plan.relationships.map (·.declaration.text.toList)
  adapters : text.adapters = (plan.identity.flatMap Member.adapterLines).map Line.content

end ClassText

/-! ## The contents of lines -/

namespace Layout

/-- Lines without their indentation. -/
def contents (lines : List Line) : List (List Point) :=
  lines.map Line.content

@[simp] theorem contents_nil : contents [] = [] :=
  rfl

@[simp] theorem contents_cons (line : Line) (rest : List Line) :
    contents (line :: rest) = line.content :: contents rest :=
  rfl

@[simp] theorem contents_append (lines more : List Line) :
    contents (lines ++ more) = contents lines ++ contents more :=
  List.map_append

/-- Nesting changes the indentation only. -/
@[simp] theorem contents_nest (lines : List Line) : contents (nest lines) = contents lines := by
  rw [contents, nest, List.map_map]
  rfl

@[simp] theorem contents_region (title : Text) (lines : List Line) :
    contents (region title lines) = marked title (contents lines) := by
  have mark : (Line.flat ("#region " ++ title)).text.toList =
      .scalar '#' :: (("region " : Text).toList ++ title.toList) := by
    rw [Line.flat, Text.toList_append]
    rfl
  rw [region, contents_append, contents_cons, Line.content_of_cons mark (by decide)]
  rfl

theorem contents_lines (unit : Nat) {lines : List Line}
    (single : ∀ line ∈ lines, line.IsSingle) :
    (Text.splitOn '\n' (render unit lines).toList).map withoutIndentation =
      contents lines ++ [[]] := by
  rw [splitOn_render single, List.map_append, List.map_map]
  exact congrArg (· ++ [[]])
    (List.map_congr_left fun line _ => withoutIndentation_physical unit line)

theorem Line.isComment_content (line : Line) :
    Layout.isComment line.content = line.isComment := by
  rw [Line.content, withoutIndentation, Layout.isComment, List.dropWhile_idempotent, Line.isComment,
    Layout.isComment]

/-- Comments without strays are comments line by line. -/
theorem Annotates.isComment_of_mem {annotated : List Line} (annotates : Annotates annotated [] 0) :
    ∀ line ∈ contents annotated, Layout.isComment line = true := by
  generalize noLines : ([] : List Line) = plain at annotates
  generalize noStrays : 0 = count at annotates
  induction annotates with
  | nil => exact fun _ absent => absurd absent List.not_mem_nil
  | code => cases noLines
  | @comment line annotated plain count _ isComment _ ih =>
      exact List.forall_mem_cons.mpr
        ⟨line.isComment_content.trans isComment, ih noLines noStrays⟩
  | stray => cases noStrays

end Layout

/-! ## Members -/

namespace Member

/-- The lines of a member, as they are read. -/
def reading (document : Bool) (member : Member) : MemberText where
  comments := contents
    (if document then documentation member.summary member.value member.seeAlso else [])
  declaration := member.declaration.text.toList

theorem contents_flatMap_lines (document : Bool) (members : List Member) :
    contents (members.flatMap (Member.lines document)) =
      (members.map (reading document)).flatMap MemberText.lines := by
  induction members with
  | nil => rfl
  | cons member rest ih =>
      have first : contents (member.lines document) = (member.reading document).lines := by
        rw [Member.lines, contents_append, contents_cons, content_declaration]
        rfl
      rw [List.flatMap_cons, contents_append, ih, first]
      rfl

/-- Without strays, the comments of a member are comments. -/
theorem isComment_reading {member : Member} (single : member.IsSingle)
    (noStrays : member.strays = 0) (document : Bool) :
    ∀ line ∈ (member.reading document).comments, isComment line = true := by
  cases document with
  | false => exact fun _ absent => absurd absent List.not_mem_nil
  | true =>
      have comments : Annotates (documentation member.summary member.value member.seeAlso) []
          (Layout.strays member.summary + Layout.strays member.value) :=
        .documentation single.seeAlso
      have none : Layout.strays member.summary + Layout.strays member.value = 0 := noStrays
      rw [none] at comments
      exact comments.isComment_of_mem

end Member

/-! ## Classes -/

namespace Entity

variable {entity : Entity} {nullableMode : Bool} {plan : ClassPlan}

/-- What stands in a file before the region of the constructor. -/
def openingLines (entity : Entity) (fileScoped document : Bool) : List Line :=
  let name := safeQualifiedName entity.entityNamespace
  (if fileScoped then [.flat ("namespace " ++ name ++ ";"), .blank]
    else [.flat ("namespace " ++ name), .flat "\x7b"]) ++
  (if document then
    documentation ("Entity class representing data for table '" ++ entity.documentedTable ++ "'.")
      "" []
  else []) ++
  .flat ("public partial class " ++ entity.className) :: entity.baseLines ++ [.flat "\x7b"] ++
  (if document then
    documentation
      ("Initializes a new instance of the <see cref=\"" ++ entity.className ++ "\"/> class.") "" []
  else []) ++
  [.flat ("public " ++ entity.className ++ "()"), .flat "\x7b"]

/-- The class file of a plan, as it is read. -/
def reading (entity : Entity) (fileScoped document : Bool) (plan : ClassPlan) : ClassText where
  opening := contents (entity.openingLines fileScoped document)
  statements := contents (plan.initializers.map initializerLine)
  properties := plan.properties.map (Member.reading document)
  navigations := plan.relationships.map (Member.reading document)
  adapters := contents (plan.identity.flatMap Member.adapterLines)
  closing :=
    (if fileScoped then [("\x7d" : Text).toList]
      else [("\x7d" : Text).toList, ("\x7d" : Text).toList]) ++ [[]]

/-- A file is read as it is made. -/
theorem contents_fileLines (entity : Entity) (fileScoped document : Bool) (plan : ClassPlan) :
    contents (entity.fileLines fileScoped (entity.classLines document plan)) ++ [[]] =
      (entity.reading fileScoped document plan).lines := by
  have brace : (Line.flat "\x7d").content = ("\x7d" : Text).toList := rfl
  have blank : Line.blank.content = [] := rfl
  rw [reading, ClassText.lines, openingLines]
  cases fileScoped with
  | true =>
      simp only [fileLines, classLines, constructorLines, braced, contents_append, contents_cons,
        contents_nest, contents_region, contents_nil, Member.contents_flatMap_lines, brace, blank,
        if_true, List.append_assoc, List.cons_append, List.nil_append]
  | false =>
      simp only [fileLines, classLines, constructorLines, braced, contents_append, contents_cons,
        contents_nest, contents_region, contents_nil, Member.contents_flatMap_lines, brace, blank,
        Bool.false_eq_true, if_false, List.append_assoc, List.cons_append, List.nil_append]

theorem heading_reading (entity : Entity) (fileScoped document : Bool) (plan : ClassPlan) :
    [("public " ++ entity.className ++ "()").toList, ("\x7b" : Text).toList] <:+
      (entity.reading fileScoped document plan).opening := by
  have begins : (Line.flat ("public " ++ entity.className ++ "()")).text.toList =
      .scalar 'p' :: ("ublic " ++ entity.className ++ "()").toList := by
    simp [Line.flat]
  have heading := Line.content_of_cons begins (by decide)
  have brace : (Line.flat "\x7b").content = ("\x7b" : Text).toList := rfl
  rw [reading, openingLines, contents_append, contents_cons, contents_cons, heading, brace]
  exact List.suffix_append _ _

/-- The lines of a class without comments, by its regions. -/
theorem hasRegions_reading (planned : entity.plan nullableMode = .ok plan) (fileScoped : Bool) :
    HasRegions (entity.reading fileScoped false plan).lines
      (entity.reading fileScoped false plan).regions := by
  have structured := (entity.isStructured_file fileScoped (isStructured_class planned)).regions
  have ended : HasRegions [[]] [] := .code List.not_mem_nil .nil
  have whole := structured.append ended
  have declarations (members : List Member) :
      (members.flatMap (Member.lines false)).map Line.content =
        (members.map (Member.reading false)).map (·.declaration) := by
    rw [flatMap_lines, List.map_map, List.map_map]
    exact List.map_congr_left fun member _ => member.content_declaration
  rw [← contents_fileLines]
  rw [List.append_nil, ClassPlan.regions, declarations, declarations] at whole
  exact whole

/-- The code of a class shows what is planned for it. -/
theorem exists_text_of_plan (planned : entity.plan nullableMode = .ok plan)
    (fileScoped document : Bool) (unit : Nat) :
    ∃ text : ClassText, text.Shows plan ∧
      text.IsReadFrom entity document
        (render unit (entity.fileLines fileScoped (entity.classLines document plan))) := by
  have single := isSingle_fileLines planned fileScoped document
  refine ⟨entity.reading fileScoped document plan, ?_, ?_⟩
  · constructor
    · exact List.map_map
    · rw [reading, List.map_map]
      rfl
    · rw [reading, List.map_map]
      rfl
    · rfl
  constructor
  · rw [contents_lines unit single, contents_fileLines]
  · exact entity.heading_reading fileScoped document plan
  · rw [reading]
    cases fileScoped <;> simp
  · rintro rfl
    exact hasRegions_reading planned fileScoped
  · rintro rfl member listed
    rw [reading, ← List.map_append] at listed
    obtain ⟨_, _, rfl⟩ := List.mem_map.mp listed
    rfl
  · obtain ⟨members, run, rfl⟩ := plan_eq_ok_iff.mp planned
    rw [reading, List.forall₂_map_right_iff]
    refine (scalarMembers_eq_ok_iff.mp run).imp fun property member found inside => ?_
    have none := Layout.strays_eq_zero_iff.mpr inside
    have noStrays : member.strays = 0 := by
      rw [Property.strays_member found, none]
    exact Member.isComment_reading (Property.isSingle_member found) noStrays document
  · obtain ⟨members, _, rfl⟩ := plan_eq_ok_iff.mp planned
    rw [reading, navigationMembers, List.map_map]
    refine List.forall_mem_map.mpr fun relationship _ => ?_
    exact Member.isComment_reading (relationship.isSingle_member nullableMode)
      (relationship.strays_member nullableMode) document

/-- What is true of the planned declarations, item by item, is true of those in the text. -/
theorem forall₂_declaration {α : Type} {holds : α → List Point → Prop} {items : List α}
    {members : List MemberText} {planned : List Member}
    (shown : members.map (·.declaration) = planned.map (·.declaration.text.toList))
    (each : List.Forall₂ (fun item member => holds item member.declaration.text.toList) items
      planned) :
    List.Forall₂ (fun item member => holds item member.declaration) items members := by
  rw [← List.forall₂_map_right_iff (f := fun member : MemberText => member.declaration), shown,
    List.forall₂_map_right_iff]
  exact each

end Entity

end EntityForge
