import EntityForge.Proofs.Code.Member

/-!
# Annotated classes

Documentation is put between the lines of a class.  A line feed in the name of the table or of a
column begins a line that need not be a comment; such strays are counted.
-/

namespace EntityForge

open EntityForge.Identifier
open EntityForge.Layout

/-! ## Annotated lines -/

namespace Layout.Annotates

/-- A single line of code. -/
theorem line {line : Line} (single : line.IsSingle) (isCode : line.isComment = false) :
    Annotates [line] [line] 0 :=
  .code single isCode .nil

/-- Lines of code without any comments. -/
theorem self {lines : List Line} (single : ∀ line ∈ lines, line.IsSingle)
    (isCode : ∀ line ∈ lines, line.isComment = false) : Annotates lines lines 0 := by
  induction lines with
  | nil => exact .nil
  | cons line rest ih =>
      rw [List.forall_mem_cons] at single isCode
      exact .code single.1 isCode.1 (ih single.2 isCode.2)

/-- The pieces of a text are comments or strays. -/
theorem pieces {pieces : List (List Point)} (single : ∀ piece ∈ pieces, .scalar '\n' ∉ piece) :
    Annotates (pieces.map fun piece => Line.flat (Text.ofList piece)) []
      (pieces.countP fun piece => !isComment piece) := by
  induction pieces with
  | nil => exact .nil
  | cons piece rest ih =>
      rw [List.forall_mem_cons] at single
      have isSingle : (Line.flat (Text.ofList piece)).IsSingle := by
        rw [Line.IsSingle, Line.flat, Text.toList_ofList]
        exact single.1
      have same : (Line.flat (Text.ofList piece)).isComment = isComment piece := by
        rw [Line.isComment, Line.flat, Text.toList_ofList]
      cases comment : isComment piece with
      | true =>
          rw [List.countP_cons_of_neg (by simp [comment])]
          exact .comment isSingle (same.trans comment) (ih single.2)
      | false =>
          rw [List.countP_cons_of_pos (by simp [comment])]
          exact .stray isSingle (same.trans comment) (ih single.2)

/-- A comment of one line. -/
theorem comment_line {text : Text} (single : .scalar '\n' ∉ text.toList)
    (comment : isComment text.toList = true) : Annotates (Line.ofText text) [] 0 := by
  rw [Line.ofText_of_notMem single]
  exact .comment single comment .nil

/-- A comment with a text in it, whose line feeds begin the strays. -/
theorem comment_text (text : Text) :
    Annotates (Line.ofText ("/// " ++ text)) [] (strays text) := by
  obtain ⟨head, tail, split⟩ := List.exists_cons_of_ne_nil (Text.splitOn_ne_nil '\n' text.toList)
  have single : ∀ piece ∈ head :: tail, .scalar '\n' ∉ piece :=
    fun piece member => Text.notMem_of_mem_splitOn (split ▸ member)
  rw [List.forall_mem_cons] at single
  have opening : isComment (("/// " : Text).toList ++ head) = true := isComment_slashes _
  have whole : Text.splitOn '\n' ("/// " ++ text).toList =
      (("/// " : Text).toList ++ head) :: tail := by
    rw [Text.toList_append, Text.splitOn_append_left (by decide)]
    simp only [split, List.head_cons, List.tail_cons]
  rw [Line.ofText, Text.lines, Text.pieces, List.map_map, whole, List.map_cons, strays, split]
  refine .comment ?_ ?_ (pieces single.2)
  · simpa [Line.IsSingle, Line.flat] using single.1
  · simpa [Line.isComment, Line.flat] using opening

/-- A documentation comment adds the strays of its texts. -/
theorem documentation {summary value : Text} {seeAlso : List Text}
    (links : ∀ link ∈ seeAlso, .scalar '\n' ∉ link.toList) :
    Annotates (EntityForge.documentation summary value seeAlso) []
      (strays summary + strays value) := by
  have summaryLines : Annotates (Line.ofText "/// <summary>" ++
      Line.ofText ("/// " ++ summary) ++ Line.ofText "/// </summary>") [] (strays summary) := by
    simpa using ((comment_line (by decide) (by decide)).append (comment_text summary)).append
      (comment_line (by decide) (by decide))
  have valueLines : Annotates (if value.isEmpty then []
      else Line.ofText "/// <value>" ++ Line.ofText ("/// " ++ value) ++
        Line.ofText "/// </value>") [] (strays value) := by
    split
    next empty =>
      rw [Text.isEmpty_iff.mp empty]
      exact .nil
    next =>
      simpa using ((comment_line (by decide) (by decide)).append (comment_text value)).append
        (comment_line (by decide) (by decide))
  have linkLines : Annotates (seeAlso.flatMap fun name =>
      Line.ofText ("/// <seealso cref=\"" ++ name ++ "\" />")) [] 0 := by
    refine flatMap_nil fun name member => comment_line ?_ ?_
    · simp [links name member]
    · simp [isComment]
  rw [EntityForge.documentation]
  simpa using (summaryLines.append valueLines).append linkLines

/-- A documentation comment with a summary only. -/
theorem description (summary : Text) :
    Annotates (EntityForge.documentation summary "" []) [] (strays summary) :=
  documentation fun _ none => absurd none List.not_mem_nil

end Layout.Annotates

/-! ## Strays of members -/

/-- A text without line feeds has no strays. -/
theorem Layout.strays_of_single {text : Text} (single : .scalar '\n' ∉ text.toList) :
    strays text = 0 := by
  rw [strays, Text.splitOn_of_notMem single]
  rfl

/-- A name between quotes at the end of a sentence has strays of its own only. -/
theorem Layout.strays_quoted {before : Text} (single : .scalar '\n' ∉ before.toList) (name : Text) :
    strays (before ++ name ++ "'.") = strays name :=
  strays_frame single rfl (by decide) (by decide) (by decide) name

/-- The strays in the documentation of a member. -/
def Member.strays (member : Member) : Nat :=
  Layout.strays member.summary + Layout.strays member.value

/-- A property is documented by the name of its column, twice. -/
theorem Property.strays_member {property : Property} {nullableMode : Bool} {member : Member}
    (run : property.member nullableMode = .ok member) :
    member.strays = Layout.strays property.columnName + Layout.strays property.columnName := by
  obtain ⟨type, _, rfl⟩ := Property.member_eq_ok_iff.mp run
  exact congrArg₂ (· + ·) (strays_quoted (by decide) property.columnName)
    (strays_quoted (by decide) property.columnName)

/-- A name without line feeds has no strays in a sentence. -/
theorem Layout.strays_sentence {before after name : Text} (opening : .scalar '\n' ∉ before.toList)
    (closing : .scalar '\n' ∉ after.toList) (single : .scalar '\n' ∉ name.toList) :
    strays (before ++ name ++ after) = 0 := by
  refine strays_of_single ?_
  simp [opening, single, closing]

/-- A navigation is documented by the legal name of its target. -/
theorem Relationship.strays_member (relationship : Relationship) (nullableMode : Bool) :
    (relationship.member nullableMode).strays = 0 := by
  have target := relationship.primaryEntity.newline_notMem_qualifiedName
  rw [Member.strays, Relationship.member]
  cases relationship.cardinality with
  | many | one | zeroOrOne =>
      exact congrArg₂ (· + ·) (strays_sentence (by decide) (by decide) target)
        (strays_sentence (by decide) (by decide) target)

/-! ## Classes -/

namespace Layout.Annotates

/-- Annotated lines behind a blank one. -/
theorem spaced {annotated plain : List Line} {count : Nat}
    (annotates : Annotates annotated plain count) :
    Annotates (.blank :: annotated) (.blank :: plain) count :=
  .code (by decide) (by decide) annotates

theorem member {member : Member} (single : member.IsSingle) :
    Annotates (member.lines true) (member.lines false) member.strays := by
  have declaration := line (Member.isSingle_declaration single) member.isComment_declaration
  exact (documentation single.seeAlso).append declaration

/-- A region around annotated lines. -/
theorem region {title : Text} {annotated plain : List Line} {count : Nat}
    (single : .scalar '\n' ∉ title.toList) (annotates : Annotates annotated plain count) :
    Annotates (EntityForge.region title annotated) (EntityForge.region title plain) count := by
  have opening : (Line.flat ("#region " ++ title)).IsSingle := by
    simp [Line.IsSingle, Line.flat, single]
  have begins : (Line.flat ("#region " ++ title)).text.toList.head? = some (.scalar '#') := by
    simp [Line.flat]
  have isCode := Line.isComment_eq_false begins (by decide) (by decide)
  have closing : Annotates [Line.flat "#endregion"] [Line.flat "#endregion"] 0 :=
    line (by decide) (by decide)
  exact .code opening isCode (annotates.append closing)

end Layout.Annotates

namespace Entity

theorem newline_notMem_className (entity : Entity) : .scalar '\n' ∉ entity.className.toList :=
  newline_notMem_safeName entity.entityClass

/-- The adapters hold no names of the model. -/
theorem annotates_identity (nullableMode : Bool) :
    Annotates ((identityMembers nullableMode).flatMap Member.adapterLines)
      ((identityMembers nullableMode).flatMap Member.adapterLines) 0 := by
  cases nullableMode <;> exact .self (by decide) (by decide)

/-- A collection is filled in a statement that begins with its legal name. -/
theorem isComment_initializerLine (raw target : Text) :
    (initializerLine (safeName raw, target)).isComment = false := by
  obtain ⟨first, rest, shape, known⟩ := exists_toList_safeName raw
  have begins : (initializerLine (safeName raw, target)).text.toList.head? = some first := by
    simp [initializerLine, Line.flat, shape]
  refine Line.isComment_eq_false begins ?_ ?_ <;>
  · rintro rfl
    exact absurd known (by decide)

theorem isSingle_initializerLine {target : Text} (single : .scalar '\n' ∉ target.toList)
    (raw : Text) : (initializerLine (safeName raw, target)).IsSingle := by
  simp [initializerLine, Line.IsSingle, Line.flat, hashSet, newline_notMem_safeName,
    single]

theorem annotates_initializers (entity : Entity) :
    Annotates (entity.collectionInitializers.map initializerLine)
      (entity.collectionInitializers.map initializerLine) 0 := by
  rw [collectionInitializers, List.map_map]
  apply Annotates.self <;> refine List.forall_mem_map.mpr fun relationship _ => ?_
  · exact isSingle_initializerLine relationship.primaryEntity.newline_notMem_qualifiedName _
  · exact isComment_initializerLine relationship.propertyName _

theorem annotates_constructor (entity : Entity) :
    Annotates (entity.constructorLines true entity.collectionInitializers)
      (entity.constructorLines false entity.collectionInitializers) 0 := by
  have name := entity.newline_notMem_className
  have summary : strays
      ("Initializes a new instance of the <see cref=\"" ++ entity.className ++ "\"/> class.") = 0 :=
    strays_sentence (by decide) (by decide) name
  have comments := Annotates.description
    ("Initializes a new instance of the <see cref=\"" ++ entity.className ++ "\"/> class.")
  have head : (Line.flat ("public " ++ entity.className ++ "()")).IsSingle := by
    simp [Line.IsSingle, Line.flat, name]
  have begins : (Line.flat ("public " ++ entity.className ++ "()")).text.toList.head? =
      some (.scalar 'p') := by
    simp [Line.flat]
  have isCode := Line.isComment_eq_false begins (by decide) (by decide)
  have title : .scalar '\n' ∉ ("Generated Constructor" : Text).toList := by decide
  have body := (Annotates.region title entity.annotates_initializers).braced
  rw [summary] at comments
  exact comments.append (.code head isCode body)

/-- The strays in the documentation of an entity: those of its table, and twice those of every
column. -/
def strays (entity : Entity) : Nat :=
  Layout.strays entity.documentedTable +
    (entity.properties.map fun property =>
      Layout.strays property.columnName + Layout.strays property.columnName).sum

theorem strays_eq_zero_iff {entity : Entity} :
    entity.strays = 0 ↔ StaysInComment entity.documentedTable ∧
      ∀ property ∈ entity.properties, StaysInComment property.columnName := by
  simp only [strays, Nat.add_eq_zero_iff, List.sum_eq_zero_iff_forall_eq_nat, List.forall_mem_map,
    and_self, Layout.strays_eq_zero_iff]

/-- The documentation of the scalar members is that of the columns. -/
theorem strays_scalarMembers {entity : Entity} {nullableMode : Bool} {members : List Member}
    (run : entity.scalarMembers nullableMode = .ok members) :
    members.map Member.strays = entity.properties.map fun property =>
      Layout.strays property.columnName + Layout.strays property.columnName := by
  have paired := scalarMembers_eq_ok_iff.mp run
  clear run
  generalize entity.properties = properties at paired ⊢
  induction paired with
  | nil => rfl
  | cons head _ ih => rw [List.map_cons, List.map_cons, ih, Property.strays_member head]

theorem annotates_properties {entity : Entity} {nullableMode : Bool} {members : List Member}
    (run : entity.scalarMembers nullableMode = .ok members) :
    Annotates (members.flatMap (Member.lines true)) (members.flatMap (Member.lines false))
      (entity.properties.map fun property =>
        Layout.strays property.columnName + Layout.strays property.columnName).sum := by
  rw [← strays_scalarMembers run]
  refine Annotates.flatMap fun member inMembers => .member ?_
  rw [scalarMembers] at run
  obtain ⟨property, _, found⟩ := exists_of_mem_mapM run inMembers
  exact Property.isSingle_member (mapError_eq_ok_iff.mp found)

theorem annotates_relationships (entity : Entity) (nullableMode : Bool) :
    Annotates ((entity.navigationMembers nullableMode).flatMap (Member.lines true))
      ((entity.navigationMembers nullableMode).flatMap (Member.lines false)) 0 := by
  have each : ∀ member ∈ entity.navigationMembers nullableMode,
      Annotates (member.lines true) (member.lines false) member.strays := by
    rw [navigationMembers, List.forall_mem_map]
    exact fun relationship _ => .member (relationship.isSingle_member nullableMode)
  have none : ((entity.navigationMembers nullableMode).map Member.strays).sum = 0 := by
    rw [List.sum_eq_zero_iff_forall_eq_nat, List.forall_mem_map, navigationMembers,
      List.forall_mem_map]
    exact fun relationship _ => relationship.strays_member nullableMode
  exact none ▸ Annotates.flatMap each

theorem annotates_baseLines (entity : Entity) :
    Annotates entity.baseLines entity.baseLines 0 := by
  rw [baseLines]
  split
  next base _ =>
    have name := newline_notMem_safeQualifiedName (Text.ofList (Text.trim base.toList))
    refine (Annotates.line ?_ ?_).nest
    · simp [Line.IsSingle, Line.flat, name, identifiableOfInt]
    · have begins : (Line.flat (": " ++ safeQualifiedName (Text.ofList (Text.trim base.toList)) ++
          ", " ++ identifiableOfInt)).text.toList.head? = some (.scalar ':') := by
        simp [Line.flat]
      exact Line.isComment_eq_false begins (by decide) (by decide)
  next => exact .nil

theorem annotates_class {entity : Entity} {nullableMode : Bool} {plan : ClassPlan}
    (planned : entity.plan nullableMode = .ok plan) :
    Annotates (entity.classLines true plan) (entity.classLines false plan) entity.strays := by
  obtain ⟨members, run, rfl⟩ := plan_eq_ok_iff.mp planned
  have name := entity.newline_notMem_className
  have summary : Layout.strays
      ("Entity class representing data for table '" ++ entity.documentedTable ++ "'.") =
      Layout.strays entity.documentedTable :=
    strays_quoted (by decide) entity.documentedTable
  have comments := Annotates.description
    ("Entity class representing data for table '" ++ entity.documentedTable ++ "'.")
  have head : (Line.flat ("public partial class " ++ entity.className)).IsSingle := by
    simp [Line.IsSingle, Line.flat, name]
  have begins : (Line.flat ("public partial class " ++ entity.className)).text.toList.head? =
      some (.scalar 'p') := by
    simp [Line.flat]
  have isCode := Line.isComment_eq_false begins (by decide) (by decide)
  have properties : .scalar '\n' ∉ ("Generated Properties" : Text).toList := by decide
  have relationships : .scalar '\n' ∉ ("Generated Relationships" : Text).toList := by decide
  have identity : .scalar '\n' ∉ ("Generated IIdentifiable Properties" : Text).toList := by decide
  have body := ((entity.annotates_constructor.append
    ((entity.annotates_properties run).region properties).spaced).append
    ((entity.annotates_relationships nullableMode).region relationships).spaced).append
    ((annotates_identity nullableMode).region identity).spaced
  rw [summary] at comments
  have whole := (comments.append (.code head isCode entity.annotates_baseLines)).append body.braced
  simp only [Nat.add_zero, Nat.zero_add] at whole
  exact whole

theorem annotates_file (entity : Entity) (fileScoped : Bool) {annotated plain : List Line}
    {count : Nat} (annotates : Annotates annotated plain count) :
    Annotates (entity.fileLines fileScoped annotated) (entity.fileLines fileScoped plain)
      count := by
  have name := newline_notMem_safeQualifiedName entity.entityNamespace
  cases fileScoped with
  | true =>
      have head : (Line.flat
          ("namespace " ++ safeQualifiedName entity.entityNamespace ++ ";")).IsSingle := by
        simp [Line.IsSingle, Line.flat, name]
      have begins : (Line.flat ("namespace " ++ safeQualifiedName entity.entityNamespace ++ ";")
          ).text.toList.head? = some (.scalar 'n') := by
        simp [Line.flat]
      exact .code head (Line.isComment_eq_false begins (by decide) (by decide)) annotates.spaced
  | false =>
      have head : (Line.flat
          ("namespace " ++ safeQualifiedName entity.entityNamespace)).IsSingle := by
        simp [Line.IsSingle, Line.flat, name]
      have begins : (Line.flat ("namespace " ++ safeQualifiedName entity.entityNamespace)
          ).text.toList.head? = some (.scalar 'n') := by
        simp [Line.flat]
      exact .code head (Line.isComment_eq_false begins (by decide) (by decide)) annotates.braced

/-- No line of a file holds a line feed, also where the documentation does. -/
theorem isSingle_fileLines {entity : Entity} {nullableMode : Bool} {plan : ClassPlan}
    (planned : entity.plan nullableMode = .ok plan) (fileScoped document : Bool) :
    ∀ line ∈ entity.fileLines fileScoped (entity.classLines document plan), line.IsSingle := by
  have annotates := entity.annotates_file fileScoped (annotates_class planned)
  cases document with
  | true => exact annotates.isSingle
  | false => exact annotates.isSingle_plain

end Entity

end EntityForge
