import EntityForge.Proofs.Code.Initialization

/-!
# Nullable reference types

Code for nullable reference types is code without them, annotated line by line: a mark goes right
behind a declared type, and a default goes to the end of a declaration.  Which of the two, if any,
is decided by the kind of the member alone, and all that a member is named, documented and ordered
by comes from the entity.
-/

namespace EntityForge

open EntityForge.Identifier
open EntityForge.Layout
open EntityForge.Text

/-! ## Annotations -/

/-- The declaration of the navigation to one entity, with a mark right behind its type. -/
def Relationship.declarationMarked (relationship : Relationship) (mark : Text) : Text :=
  "[" ++ hasOneAttribute ++ "] public virtual " ++ relationship.primaryEntity.qualifiedName ++
    mark ++ " " ++ safeName relationship.propertyName ++ " \x7b get; set; \x7d"

/-- The declaration of the scalar member for a property with its type as it is printed. -/
def Property.declarationTyped (property : Property) (type : Text) : Text :=
  "[" ++ attrAttribute ++ "] public " ++ type ++ " " ++ safeName property.propertyName ++
    " \x7b get; set; \x7d"

/-- The heading of an adapter for the text of a key, with a mark right behind its type. -/
def textAdapterMarked (mark name : Text) : Text :=
  "string" ++ mark ++ " " ++ identifiable ++ "." ++ name

/-- What nullable reference types make of the declaration for a relationship. -/
inductive Relationship.AnnotatesNull (relationship : Relationship) : Text → Text → Prop where
  | collection (text : Text) :
      relationship.cardinality = .many → relationship.AnnotatesNull text text
  | optional :
      relationship.cardinality = .zeroOrOne →
      relationship.AnnotatesNull (relationship.declarationMarked "")
        (relationship.declarationMarked "?")
  | required :
      relationship.cardinality = .one →
      relationship.AnnotatesNull (relationship.declarationMarked "")
        (relationship.declarationMarked "" ++ " = null!;")

/-- What nullable reference types make of the declaration for a property. -/
inductive Property.AnnotatesNull (property : Property) : Text → Text → Prop where
  | settled (text : Text) :
      property.isNullable = some true ∨ property.systemType.isValue = .ok true →
      property.AnnotatesNull text text
  | reference {type : Text} :
      property.isNullable ≠ some true → property.systemType.isValue = .ok false →
      TypeName.canonical property.systemType.name = .ok type →
      property.AnnotatesNull (property.declarationTyped type)
        (property.declarationTyped type ++ " = null!;")

/-- What nullable reference types make of the heading of an adapter with a given name. -/
inductive AnnotatesHeading (name : Text) : Text → Text → Prop where
  | text :
      name ∈ (["StringId", "LocalId"] : List Text) →
      AnnotatesHeading name (textAdapterMarked "" name) (textAdapterMarked "?" name)
  | key (heading : Text) :
      name ∉ (["StringId", "LocalId"] : List Text) → AnnotatesHeading name heading heading

namespace Entity

/-- What nullable reference types make of a line in the class of an entity. -/
inductive AnnotatesNull (entity : Entity) : Text → Text → Prop where
  | unchanged (text : Text) : entity.AnnotatesNull text text
  | navigation {relationship : Relationship} {plain annotated : Text} :
      relationship ∈ entity.relationships → relationship.AnnotatesNull plain annotated →
      entity.AnnotatesNull plain annotated
  | scalar {property : Property} {plain annotated : Text} :
      property ∈ entity.properties → property.AnnotatesNull plain annotated →
      entity.AnnotatesNull plain annotated
  | identity {name plain annotated : Text} :
      AnnotatesHeading name plain annotated → entity.AnnotatesNull plain annotated

/-- What nullable reference types make of a line in the file of an entity, behind its
indentation. -/
def AnnotatesIndented (entity : Entity) (plain annotated : List Point) : Prop :=
  ∃ spaces plainText annotatedText,
    plain = List.replicate spaces (.scalar ' ') ++ Text.toList plainText ∧
    annotated = List.replicate spaces (.scalar ' ') ++ Text.toList annotatedText ∧
    entity.AnnotatesNull plainText annotatedText

/-- What nullable reference types make of a line before it is rendered. -/
structure AnnotatesLine (entity : Entity) (plain annotated : Line) : Prop where
  depth : annotated.depth = plain.depth
  text : entity.AnnotatesNull plain.text annotated.text

end Entity

/-- Whether two members differ at most in what they say of null. -/
structure Member.AgreesUpToNull (plain annotated : Member) : Prop where
  role : annotated.role = plain.role
  name : annotated.name = plain.name
  summary : annotated.summary = plain.summary
  value : annotated.value = plain.value
  seeAlso : annotated.seeAlso = plain.seeAlso
  interface : annotated.interface = plain.interface
  getter : annotated.getter = plain.getter

/-- Whether the members for some items, with and without nullable reference types, agree one by one
but for a text of theirs, which changes as it does for the item. -/
inductive Member.AnnotatesEach {α : Type} (text : Member → Text)
    (changes : α → Text → Text → Prop) : List α → List Member → List Member → Prop where
  | nil : AnnotatesEach text changes [] [] []
  | cons {item : α} {items : List α} {plain annotated : Member} {others more : List Member} :
      plain.AgreesUpToNull annotated → changes item (text plain) (text annotated) →
      AnnotatesEach text changes items others more →
      AnnotatesEach text changes (item :: items) (plain :: others) (annotated :: more)

/-- The heading of an adapter. -/
def Member.heading (member : Member) : Text :=
  member.declaredType ++ " " ++ member.interface ++ "." ++ member.name

/-- What nullable reference types make of a planned class: the constructor stays as it is, and the
members stand for the same items in the same order. -/
structure Entity.AnnotatesPlan (entity : Entity) (plain annotated : ClassPlan) : Prop where
  initializers : annotated.initializers = plain.initializers
  properties : Member.AnnotatesEach (·.declaration.text) Property.AnnotatesNull
    entity.properties plain.properties annotated.properties
  relationships : Member.AnnotatesEach (·.declaration.text) Relationship.AnnotatesNull
    (Relationship.sorted entity.relationships) plain.relationships annotated.relationships
  identity : Member.AnnotatesEach Member.heading AnnotatesHeading
    ["StringId", "LocalId", identityPropertyName] plain.identity annotated.identity

/-! ## Annotated texts -/

namespace Entity.AnnotatesNull

variable {entity : Entity} {plain annotated : Text}

/-- A line that changes is code: it begins with an attribute or with a type. -/
theorem eq_or_begins (annotates : entity.AnnotatesNull plain annotated) :
    annotated = plain ∨ ∃ first : Point, first ≠ ' ' ∧ first ≠ '/' ∧
      plain.toList.head? = some first ∧ annotated.toList.head? = some first := by
  cases annotates with
  | unchanged => exact .inl rfl
  | navigation _ change =>
      cases change with
      | collection => exact .inl rfl
      | optional | required =>
          right
          exact ⟨'[', by decide, by decide, by simp [Relationship.declarationMarked],
            by simp [Relationship.declarationMarked]⟩
  | scalar _ change =>
      cases change with
      | settled => exact .inl rfl
      | reference =>
          right
          exact ⟨'[', by decide, by decide, by simp [Property.declarationTyped],
            by simp [Property.declarationTyped]⟩
  | identity change =>
      cases change with
      | key => exact .inl rfl
      | text =>
          right
          exact ⟨'s', by decide, by decide, by simp [textAdapterMarked],
            by simp [textAdapterMarked]⟩

theorem isEmpty_eq (annotates : entity.AnnotatesNull plain annotated) :
    annotated.isEmpty = plain.isEmpty := by
  cases annotates.eq_or_begins with
  | inl same => rw [same]
  | inr begins =>
      obtain ⟨first, _, _, plainBegins, annotatedBegins⟩ := begins
      have filled {text : Text} (starts : text.toList.head? = some first) :
          text.isEmpty = false := by
        rw [← Bool.not_eq_true, Text.isEmpty_iff]
        intro empty
        rw [empty] at starts
        cases starts
      rw [filled plainBegins, filled annotatedBegins]

end Entity.AnnotatesNull

/-- A line stays behind its indentation. -/
theorem Entity.AnnotatesLine.physical {entity : Entity} {plain annotated : Line}
    (annotates : entity.AnnotatesLine plain annotated) (unit : Nat) :
    entity.AnnotatesIndented (plain.physical unit) (annotated.physical unit) := by
  obtain ⟨depth, text⟩ := annotates
  rw [Line.physical, Line.physical, depth, text.isEmpty_eq]
  split
  next => exact ⟨0, "", "", rfl, rfl, .unchanged ""⟩
  next => exact ⟨unit * plain.depth, plain.text, annotated.text, rfl, rfl, text⟩

/-- A comment is no line that changes. -/
theorem Entity.AnnotatesIndented.isComment {entity : Entity} {plain annotated : List Point}
    (annotates : entity.AnnotatesIndented plain annotated) :
    isComment annotated = isComment plain ∧ (isComment plain = true → annotated = plain) := by
  obtain ⟨spaces, plainText, annotatedText, rfl, rfl, text⟩ := annotates
  cases text.eq_or_begins with
  | inl same =>
      subst same
      exact ⟨rfl, fun _ => rfl⟩
  | inr begins =>
      obtain ⟨first, notSpace, notSlash, plainBegins, annotatedBegins⟩ := begins
      obtain ⟨plainRest, plainShape⟩ := List.head?_eq_some_iff.mp plainBegins
      obtain ⟨annotatedRest, annotatedShape⟩ := List.head?_eq_some_iff.mp annotatedBegins
      have plainCode := isComment_cons notSpace notSlash plainRest
      have annotatedCode := isComment_cons notSpace notSlash annotatedRest
      rw [isComment_replicate_append, isComment_replicate_append, plainShape, annotatedShape,
        plainCode, annotatedCode]
      exact ⟨rfl, fun impossible => absurd impossible Bool.false_ne_true⟩

/-! ## Annotated lines -/

namespace Entity

variable {entity : Entity} {plain annotated morePlain moreAnnotated : List Line}

theorem AnnotatesLine.refl (entity : Entity) (line : Line) : entity.AnnotatesLine line line :=
  ⟨rfl, .unchanged line.text⟩

/-- Lines that do not change. -/
theorem annotatesLines_refl (entity : Entity) (lines : List Line) :
    List.Forall₂ entity.AnnotatesLine lines lines :=
  List.forall₂_same.mpr fun line _ => .refl entity line

theorem annotatesLines_append (first : List.Forall₂ entity.AnnotatesLine plain annotated)
    (second : List.Forall₂ entity.AnnotatesLine morePlain moreAnnotated) :
    List.Forall₂ entity.AnnotatesLine (plain ++ morePlain) (annotated ++ moreAnnotated) :=
  List.rel_append first second

theorem annotatesLines_nest (annotates : List.Forall₂ entity.AnnotatesLine plain annotated) :
    List.Forall₂ entity.AnnotatesLine (nest plain) (nest annotated) := by
  rw [nest, nest, List.forall₂_map_left_iff, List.forall₂_map_right_iff]
  exact annotates.imp fun _ _ line => ⟨congrArg (· + 1) line.depth, line.text⟩

theorem annotatesLines_braced (annotates : List.Forall₂ entity.AnnotatesLine plain annotated) :
    List.Forall₂ entity.AnnotatesLine (braced plain) (braced annotated) :=
  .cons (.refl _ _) (annotatesLines_append (annotatesLines_nest annotates)
    (annotatesLines_refl _ _))

theorem annotatesLines_region (title : Text)
    (annotates : List.Forall₂ entity.AnnotatesLine plain annotated) :
    List.Forall₂ entity.AnnotatesLine (region title plain) (region title annotated) :=
  .cons (.refl _ _) (annotatesLines_append annotates (annotatesLines_refl _ _))

theorem annotatesLines_file (fileScoped : Bool)
    (annotates : List.Forall₂ entity.AnnotatesLine plain annotated) :
    List.Forall₂ entity.AnnotatesLine (entity.fileLines fileScoped plain)
      (entity.fileLines fileScoped annotated) := by
  cases fileScoped with
  | true => exact .cons (.refl _ _) (.cons (.refl _ _) annotates)
  | false => exact .cons (.refl _ _) (annotatesLines_braced annotates)

end Entity

/-! ## Annotated files -/

namespace Entity

variable {entity : Entity} {plain annotated : List Line}

/-- Rendering keeps annotated lines in their pairs. -/
theorem annotatesIndented_render (annotates : List.Forall₂ entity.AnnotatesLine plain annotated)
    (plainSingle : ∀ line ∈ plain, line.IsSingle)
    (annotatedSingle : ∀ line ∈ annotated, line.IsSingle) (unit : Nat) :
    List.Forall₂ entity.AnnotatesIndented (splitOn '\n' (render unit plain).toList)
      (splitOn '\n' (render unit annotated).toList) := by
  rw [splitOn_render plainSingle, splitOn_render annotatedSingle]
  apply List.rel_append
  · rw [List.forall₂_map_left_iff, List.forall₂_map_right_iff]
    exact annotates.imp fun _ _ line => line.physical unit
  · exact .cons ⟨0, "", "", rfl, rfl, .unchanged ""⟩ .nil

/-- Files with as many pieces between line feeds have as many lines. -/
theorem lineCount_render_eq (unit : Nat)
    (lengths : (splitOn '\n' (render unit plain).toList).length =
      (splitOn '\n' (render unit annotated).toList).length) :
    lineCount (render unit annotated) = lineCount (render unit plain) := by
  rw [length_splitOn, length_splitOn] at lengths
  rw [lineCount_render, lineCount_render]
  exact (Nat.succ_inj.mp lengths).symm

end Entity

/-! ## Annotated members -/

theorem Member.text_declaration_toOne (name target : Text) (nullness : Nullness)
    (seeAlso : List Text) :
    (toOne name target nullness seeAlso).declaration.text =
      "[" ++ hasOneAttribute ++ "] public virtual " ++ target ++
        (if nullness = .nullable then "?" else "") ++ " " ++ name ++ " \x7b get; set; \x7d" ++
        if nullness = .nonNull then " = null!;" else "" := by
  have marked : (toOne name target nullness seeAlso).isNullable =
      decide (nullness = .nullable) := by
    cases nullness with
    | unstated | nullable | nonNull => rfl
  rw [← Text.toList_inj]
  cases nullness with
  | unstated | nullable | nonNull =>
      simp [declaration, Line.flat, words, attributeName, isVirtual, declaredType, typeName, marked,
        Member.name, assignment, initializer, nullableMarker, nonNullDefault]

theorem Relationship.agreesUpToNull_member (relationship : Relationship) :
    (relationship.member false).AgreesUpToNull (relationship.member true) := by
  rw [member, member]
  cases relationship.cardinality with
  | many | one | zeroOrOne => constructor <;> rfl

/-- The cardinality of a relationship decides what is added to its declaration. -/
theorem Relationship.annotatesNull_member (relationship : Relationship) :
    relationship.AnnotatesNull (relationship.member false).declaration.text
      (relationship.member true).declaration.text := by
  rw [member, member]
  cases kind : relationship.cardinality with
  | many => exact .collection _ kind
  | one =>
      have change := AnnotatesNull.required kind
      rw [Member.text_declaration_toOne, Member.text_declaration_toOne]
      simpa [declarationMarked] using change
  | zeroOrOne =>
      have change := AnnotatesNull.optional kind
      rw [Member.text_declaration_toOne, Member.text_declaration_toOne]
      simpa [declarationMarked] using change

/-- The type of a property decides what is added to its declaration. -/
theorem Property.annotatesNull_member {property : Property} {plain annotated : Member}
    (plainRun : property.member false = .ok plain)
    (annotatedRun : property.member true = .ok annotated) :
    plain.AgreesUpToNull annotated ∧
      property.AnnotatesNull plain.declaration.text annotated.declaration.text := by
  obtain ⟨plainType, plainProjected, rfl⟩ := Property.member_eq_ok_iff.mp plainRun
  obtain ⟨annotatedType, annotatedProjected, rfl⟩ := Property.member_eq_ok_iff.mp annotatedRun
  obtain ⟨isValue, value, plainMarked, plainNeeds⟩ :=
    SystemType.exists_isValue_of_project plainProjected
  obtain ⟨sameValue, again, annotatedMarked, annotatedNeeds⟩ :=
    SystemType.exists_isValue_of_project annotatedProjected
  cases value.symm.trans again
  have read := SystemType.read_of_project plainProjected
  have base : annotatedType.base = plainType.base :=
    (Except.ok.inj (read.symm.trans (SystemType.read_of_project annotatedProjected))).symm
  have printed : annotatedType.printed = plainType.printed := by
    rw [ProjectedType.printed, ProjectedType.printed, base, annotatedMarked, plainMarked]
  refine ⟨by constructor <;> rfl, ?_⟩
  rw [Member.text_declaration_scalar, Member.text_declaration_scalar, printed, plainNeeds,
    annotatedNeeds, Bool.and_false, Bool.and_true]
  cases known : property.isNullable == some true with
  | true => exact .settled _ (.inl (by simpa using known))
  | false =>
      cases isValue with
      | true => exact .settled _ (.inr value)
      | false =>
          have unmarked : property.isNullable ≠ some true := by
            simpa using known
          have canonical : TypeName.canonical property.systemType.name = .ok plainType.printed := by
            rw [TypeName.canonical, read, ProjectedType.printed, plainMarked, known]
            simp [Except.map]
          have change := AnnotatesNull.reference unmarked value canonical
          have default : (" = " ++ nonNullDefault ++ ";" : Text) = " = null!;" := rfl
          simpa [declarationTyped, default] using change

/-- Only the adapters for the text of the key change. -/
theorem annotatesEach_identity :
    Member.AnnotatesEach Member.heading AnnotatesHeading
      ["StringId", "LocalId", identityPropertyName] (identityMembers false)
      (identityMembers true) := by
  have stringId : AnnotatesHeading "StringId" (textAdapterMarked "" "StringId")
      (textAdapterMarked "?" "StringId") := .text (by decide)
  have localId : AnnotatesHeading "LocalId" (textAdapterMarked "" "LocalId")
      (textAdapterMarked "?" "LocalId") := .text (by decide)
  have key (heading : Text) : AnnotatesHeading identityPropertyName heading heading :=
    .key heading (by decide)
  apply Member.AnnotatesEach.cons (by constructor <;> rfl) stringId
  apply Member.AnnotatesEach.cons (by constructor <;> rfl) localId
  exact .cons (by constructor <;> rfl) (key _) .nil

namespace Member.AnnotatesEach

variable {α : Type} {text : Member → Text} {changes : α → Text → Text → Prop}
  {items : List α} {plain annotated : List Member}

/-- Members that are made from the same items are annotated in pairs. -/
theorem of_forall₂ {relates other : α → Member → Prop}
    (first : List.Forall₂ relates items plain) (second : List.Forall₂ other items annotated)
    (each : ∀ item left right, relates item left → other item right →
      left.AgreesUpToNull right ∧ changes item (text left) (text right)) :
    AnnotatesEach text changes items plain annotated := by
  induction first generalizing annotated with
  | nil =>
      cases second
      exact .nil
  | cons here _ ih =>
      cases second with
      | cons there later =>
          obtain ⟨agrees, change⟩ := each _ _ _ here there
          exact .cons agrees change (ih later)

/-- Where the lines of members that agree are annotated, all lines are. -/
theorem flatMap {entity : Entity} {lines : Member → List Line}
    (annotates : AnnotatesEach text changes items plain annotated)
    (each : ∀ item ∈ items, ∀ left right, left.AgreesUpToNull right →
      changes item (text left) (text right) →
      List.Forall₂ entity.AnnotatesLine (lines left) (lines right)) :
    List.Forall₂ entity.AnnotatesLine (plain.flatMap lines) (annotated.flatMap lines) := by
  induction annotates with
  | nil => exact .nil
  | cons agrees change _ ih =>
      rw [List.forall_mem_cons] at each
      rw [List.flatMap_cons, List.flatMap_cons]
      exact Entity.annotatesLines_append (each.1 _ _ agrees change) (ih each.2)

end Member.AnnotatesEach

/-! ## Annotated classes -/

namespace Entity

variable {entity : Entity}

section

variable {plain annotated : Member}

/-- The documentation of a member stays, and its declaration is one line. -/
theorem annotatesLines_member (agrees : plain.AgreesUpToNull annotated)
    (change : entity.AnnotatesNull plain.declaration.text annotated.declaration.text)
    (document : Bool) :
    List.Forall₂ entity.AnnotatesLine (plain.lines document) (annotated.lines document) := by
  rw [Member.lines, Member.lines, agrees.summary, agrees.value, agrees.seeAlso]
  exact annotatesLines_append (annotatesLines_refl _ _) (.cons ⟨rfl, change⟩ .nil)

theorem annotatesLines_adapter (agrees : plain.AgreesUpToNull annotated)
    (change : entity.AnnotatesNull plain.heading annotated.heading) :
    List.Forall₂ entity.AnnotatesLine plain.adapterLines annotated.adapterLines := by
  rw [Member.adapterLines, Member.adapterLines, agrees.getter]
  exact .cons ⟨rfl, change⟩ (annotatesLines_refl _ _)

end

variable {plain annotated : ClassPlan}

theorem annotatesPlan_of_plan (plainPlanned : entity.plan false = .ok plain)
    (annotatedPlanned : entity.plan true = .ok annotated) :
    entity.AnnotatesPlan plain annotated := by
  obtain ⟨plainMembers, plainRun, rfl⟩ := plan_eq_ok_iff.mp plainPlanned
  obtain ⟨annotatedMembers, annotatedRun, rfl⟩ := plan_eq_ok_iff.mp annotatedPlanned
  constructor
  · rfl
  · apply Member.AnnotatesEach.of_forall₂ (scalarMembers_eq_ok_iff.mp plainRun)
      (scalarMembers_eq_ok_iff.mp annotatedRun)
    intro property plain annotated
    exact Property.annotatesNull_member
  · -- The navigations are sorted before they are planned, so that the order is one and the same.
    have planned (nullableMode : Bool) :
        List.Forall₂ (fun relationship member => member = relationship.member nullableMode)
          (Relationship.sorted entity.relationships) (entity.navigationMembers nullableMode) := by
      rw [navigationMembers, List.forall₂_map_right_iff, List.forall₂_same]
      intro relationship _
      rfl
    apply Member.AnnotatesEach.of_forall₂ (planned false) (planned true)
    intro relationship left right isPlain isAnnotated
    rw [isPlain, isAnnotated]
    exact ⟨relationship.agreesUpToNull_member, relationship.annotatesNull_member⟩
  · exact annotatesEach_identity

theorem AnnotatesPlan.classLines (annotates : entity.AnnotatesPlan plain annotated)
    (document : Bool) :
    List.Forall₂ entity.AnnotatesLine (entity.classLines document plain)
      (entity.classLines document annotated) := by
  have properties : List.Forall₂ entity.AnnotatesLine
      (plain.properties.flatMap (Member.lines document))
      (annotated.properties.flatMap (Member.lines document)) := by
    apply annotates.properties.flatMap
    intro property inEntity left right agrees change
    exact annotatesLines_member agrees (.scalar inEntity change) document
  have relationships : List.Forall₂ entity.AnnotatesLine
      (plain.relationships.flatMap (Member.lines document))
      (annotated.relationships.flatMap (Member.lines document)) := by
    have sorted := List.mergeSort_perm entity.relationships Relationship.listedBefore
    apply annotates.relationships.flatMap
    intro relationship inSorted left right agrees change
    have inEntity := sorted.mem_iff.mp inSorted
    exact annotatesLines_member agrees (.navigation inEntity change) document
  have identity : List.Forall₂ entity.AnnotatesLine
      (plain.identity.flatMap Member.adapterLines)
      (annotated.identity.flatMap Member.adapterLines) := by
    apply annotates.identity.flatMap
    intro name _ left right agrees change
    exact annotatesLines_adapter agrees (.identity change)
  have blank := AnnotatesLine.refl entity .blank
  have body := annotatesLines_append (annotatesLines_append (annotatesLines_append
    (annotatesLines_refl entity (entity.constructorLines document plain.initializers))
    (.cons blank (annotatesLines_region "Generated Properties" properties)))
    (.cons blank (annotatesLines_region "Generated Relationships" relationships)))
    (.cons blank (annotatesLines_region "Generated IIdentifiable Properties" identity))
  rw [Entity.classLines, Entity.classLines, annotates.initializers]
  exact annotatesLines_append (annotatesLines_refl _ _) (annotatesLines_braced body)

/-- The file of an entity with nullable reference types has the lines of the file without them, and
those that change are annotated; no comment is among these.  The classes behind the two files have
the same constructor and the same members in the same order, and whether a declaration changes, and
how, is decided by the cardinality of the relationship or by the type of the property. -/
theorem annotatesNull_of_synthesize {options : GeneratorOptions} {code : Text}
    (run : entity.synthesize options = .ok code) :
    ∃ plain annotated plainPlan annotatedPlan,
      entity.synthesize { options with nullable := false } = .ok plain ∧
      entity.synthesize { options with nullable := true } = .ok annotated ∧
      lineCount annotated = lineCount plain ∧
      List.Forall₂ entity.AnnotatesIndented (splitOn '\n' plain.toList)
        (splitOn '\n' annotated.toList) ∧
      (splitOn '\n' annotated.toList).filter isComment =
        (splitOn '\n' plain.toList).filter isComment ∧
      entity.plan false = .ok plainPlan ∧ entity.plan true = .ok annotatedPlan ∧
      entity.AnnotatesPlan plainPlan annotatedPlan := by
  obtain ⟨valid, printable⟩ := exists_synthesize_iff.mp ⟨code, run⟩
  have written (nullable : Bool) :
      ∃ text, entity.synthesize { options with nullable } = .ok text :=
    exists_synthesize_iff.mpr ⟨valid, printable⟩
  obtain ⟨plain, plainRun⟩ := written false
  obtain ⟨annotated, annotatedRun⟩ := written true
  obtain ⟨_, plainPlan, plainPlanned, rfl⟩ := synthesize_eq_ok_iff.mp plainRun
  obtain ⟨_, annotatedPlan, annotatedPlanned, rfl⟩ := synthesize_eq_ok_iff.mp annotatedRun
  have plans := annotatesPlan_of_plan plainPlanned annotatedPlanned
  have lines := annotatesLines_file options.fileScopedNamespace (plans.classLines options.document)
  have physical := annotatesIndented_render lines (isSingle_fileLines plainPlanned _ _)
    (isSingle_fileLines annotatedPlanned _ _) options.indentSize
  have comments := filter_eq_of_forall₂ physical fun _ _ line => line.isComment
  exact ⟨_, _, plainPlan, annotatedPlan, plainRun, annotatedRun,
    lineCount_render_eq options.indentSize physical.length_eq, physical, comments, plainPlanned,
    annotatedPlanned, plans⟩

theorem annotatesNull_of_synthesize_linkedOrder :
    ∃ plain annotated,
      linkedOrder.synthesize { document := true, nullable := false } = .ok plain ∧
      linkedOrder.synthesize { document := true, nullable := true } = .ok annotated ∧
      lineCount annotated = lineCount plain ∧
      List.Forall₂ linkedOrder.AnnotatesIndented (splitOn '\n' plain.toList)
        (splitOn '\n' annotated.toList) := by
  have valid : linkedOrder.IsValid := by
    unfold IsValid
    decide
  obtain ⟨code, run⟩ :=
    exists_synthesize_of_isQualifiedName { document := true } valid (by decide)
  obtain ⟨plain, annotated, _, _, plainRun, annotatedRun, count, lines, _⟩ :=
    annotatesNull_of_synthesize run
  exact ⟨plain, annotated, plainRun, annotatedRun, count, lines⟩

end Entity

end EntityForge
