import EntityForge.Proofs.Code.MemberNames
import EntityForge.Proofs.Code.Reading
import Mathlib.Data.List.Nodup

/-!
# Initial values of members

With nullable reference types, a member that refers to an object and is not marked as nullable must
have a value from the start.  A scalar or a navigation to one entity has a default for that, and a
collection is filled by the constructor.  What a declaration says about null is decided by the type
of a scalar and by the cardinality of a navigation, and what the constructor does by a selection of
its own; the three agree, so that every member has exactly one answer.  All three are read from the
lines of the code.
-/

namespace EntityForge

open EntityForge.Identifier
open EntityForge.Layout

/-! ## What a declaration says -/

/-- A text that neither marks a type as nullable nor assigns anything. -/
def IsBare (text : Text) : Prop :=
  .scalar '?' ∉ text.toList ∧ .scalar '=' ∉ text.toList

instance (text : Text) : Decidable (IsBare text) :=
  inferInstanceAs (Decidable (_ ∧ _))


theorem isForeign_marks : isForeign '?' = true ∧ isForeign '=' = true := by decide

theorem isBare_safeName (name : Text) : IsBare (safeName name) :=
  ⟨notMem_safeName isForeign_marks.1 name, notMem_safeName isForeign_marks.2 name⟩

theorem EntityReference.isBare_qualifiedName (reference : EntityReference) :
    IsBare reference.qualifiedName :=
  ⟨notMem_qualifiedName isForeign_marks.1 (by decide) reference,
    notMem_qualifiedName isForeign_marks.2 (by decide) reference⟩

theorem TypeName.isBare_print {text : Text} {tree : TypeTree}
    (read : TypeName.read text = .ok tree) : IsBare tree.print := by
  constructor
  · intro member
    exact absurd (isTypeCharacter_of_mem_print read _ member) (by decide)
  · intro member
    exact absurd (isTypeCharacter_of_mem_print read _ member) (by decide)

namespace Declaration

/-- Whether a declaration is that of a property with a name. -/
def Names (name : Text) (declaration : List Point) : Prop :=
  (" " ++ name ++ " \x7b get; set; \x7d").toList <:+: declaration

/-- Whether a declaration marks its type as nullable. -/
def IsMarked (declaration : List Point) : Prop :=
  .scalar '?' ∈ declaration

/-- Whether a declaration assigns anything. -/
def HasInitializer (declaration : List Point) : Prop :=
  .scalar '=' ∈ declaration

/-- Whether a declaration ends with the default for references. -/
def HasDefault (declaration : List Point) : Prop :=
  (" = " ++ nonNullDefault ++ ";").toList <:+ declaration

end Declaration

open Declaration

namespace Member

/-- A declaration has its type, its name and the accessors behind the attribute and the
modifiers. -/
theorem exists_text_declaration (member : Member) :
    ∃ opening, IsBare opening ∧ .scalar '{' ∉ opening.toList ∧
      member.declaration.text = opening ++ member.declaredType ++ " " ++ member.name ++ " " ++
        "\x7b get; set; \x7d" ++ member.assignment := by
  cases member with
  | scalar =>
      refine ⟨"[" ++ attrAttribute ++ "]" ++ " " ++ "public" ++ " ", by decide, by decide, ?_⟩
      simp [declaration, Line.flat, words, attributeName, isVirtual, Text.intercalate_cons_cons,
        Text.intercalate_singleton, Text.append_assoc]
  | toOne =>
      refine ⟨"[" ++ hasOneAttribute ++ "]" ++ " " ++ "public" ++ " " ++ "virtual" ++ " ",
        by decide, by decide, ?_⟩
      simp [declaration, Line.flat, words, attributeName, isVirtual, Text.intercalate_cons_cons,
        Text.intercalate_singleton, Text.append_assoc]
  | toMany =>
      refine ⟨"[" ++ hasManyAttribute ++ "]" ++ " " ++ "public" ++ " " ++ "virtual" ++ " ",
        by decide, by decide, ?_⟩
      simp [declaration, Line.flat, words, attributeName, isVirtual, Text.intercalate_cons_cons,
        Text.intercalate_singleton, Text.append_assoc]
  | identityAdapter =>
      refine ⟨"public" ++ " ", by decide, by decide, ?_⟩
      simp [declaration, Line.flat, words, attributeName, isVirtual, Text.intercalate_cons_cons,
        Text.intercalate_singleton, Text.append_assoc]

/-- What is assigned, if anything, is the default. -/
theorem assignment_eq (member : Member) :
    member.assignment =
      if member.initializer.isSome then " = " ++ nonNullDefault ++ ";" else "" := by
  rw [assignment]
  cases found : member.initializer with
  | none => rfl
  | some expression =>
      rw [eq_nonNullDefault_of_initializer found]
      rfl

theorem names_declaration (member : Member) :
    Names member.name member.declaration.text.toList := by
  obtain ⟨opening, _, _, shape⟩ := member.exists_text_declaration
  refine ⟨(opening ++ member.declaredType).toList, member.assignment.toList, ?_⟩
  rw [shape]
  simp

variable {member : Member}

theorem isMarked_iff (name : IsBare member.name) :
    IsMarked member.declaration.text.toList ↔ .scalar '?' ∈ member.declaredType.toList := by
  obtain ⟨opening, bare, _, shape⟩ := member.exists_text_declaration
  rw [IsMarked, shape, assignment_eq]
  cases member.initializer.isSome with
  | true => simp [bare.1, name.1, nonNullDefault]
  | false => simp [bare.1, name.1]

/-- The marker is all that a declared type adds to the name of the type. -/
theorem notMem_declaredType {character : Point} (noMark : character ≠ '?')
    (typeName : character ∉ member.typeName.toList) :
    character ∉ member.declaredType.toList := by
  rw [declaredType]
  cases member.isNullable with
  | true => simp [typeName, nullableMarker, noMark]
  | false => simp [typeName]

theorem hasInitializer_iff (name : IsBare member.name)
    (typeName : .scalar '=' ∉ member.typeName.toList) :
    HasInitializer member.declaration.text.toList ↔ member.initializer.isSome = true := by
  obtain ⟨opening, bare, _, shape⟩ := member.exists_text_declaration
  have declaredType := notMem_declaredType (by decide) typeName
  rw [HasInitializer, shape, assignment_eq]
  cases member.initializer.isSome with
  | true => simp
  | false => simp [bare.2, name.2, declaredType]

/-- The default is the only initializer. -/
theorem hasDefault_iff (name : IsBare member.name)
    (typeName : .scalar '=' ∉ member.typeName.toList) :
    HasDefault member.declaration.text.toList ↔ member.initializer.isSome = true := by
  constructor
  · intro default
    rw [← hasInitializer_iff name typeName]
    apply default.subset
    decide
  · intro found
    obtain ⟨opening, _, _, shape⟩ := member.exists_text_declaration
    rw [HasDefault, shape, assignment_eq, if_pos found]
    simp only [Text.toList_append]
    exact List.suffix_append _ _

end Member

/-! ## Scalars -/

/-- A projected type follows what is known about null and about the type, in this order. -/
theorem SystemType.exists_isValue_of_project {type : SystemType} {isNullable : Option Bool}
    {nullableMode : Bool} {projected : ProjectedType}
    (run : type.project isNullable nullableMode = .ok projected) :
    ∃ isValue, type.isValue = .ok isValue ∧
      projected.isMarked = (isNullable == some true) ∧
      projected.needsNonNullDefault =
        (!(isNullable == some true) && !isValue && nullableMode) := by
  have read := read_of_project run
  have found : ∃ isValue, type.isValue = .ok isValue := by
    rw [isValue]
    split
    next declared _ => exact ⟨declared, rfl⟩
    next => exact ⟨_, by rw [TypeName.canonical, read]; rfl⟩
  obtain ⟨isValue, value⟩ := found
  refine ⟨isValue, value, ?_⟩
  rw [project, read, value] at run
  simp only [bind, Except.bind] at run
  generalize projected.base = base at run
  cases marked : isNullable == some true with
  | true =>
      rw [marked, if_pos rfl] at run
      cases run
      exact ⟨rfl, rfl⟩
  | false =>
      rw [marked, if_neg Bool.false_ne_true] at run
      cases run
      exact ⟨rfl, rfl⟩

/-- Whether the member that a declaration makes for a property has a value from the start where the
property must have one: a value type has it by itself, and any other is either marked or has the
default. -/
structure Property.IsSettledBy (property : Property) (declaration : List Point) : Prop where
  named : Names (safeName property.propertyName) declaration
  settled : ∃ isValue, property.systemType.isValue = .ok isValue ∧
    (isValue = true → ¬HasInitializer declaration) ∧
    (isValue = false → Xor (IsMarked declaration) (HasDefault declaration))

namespace Property

variable {property : Property} {nullableMode : Bool} {member : Member}

/-- What the declaration of a scalar says, as far as its type goes. -/
theorem exists_declares (run : property.member nullableMode = .ok member) :
    let declaration := member.declaration.text.toList
    ∃ isValue, property.systemType.isValue = .ok isValue ∧
      (IsMarked declaration ↔ property.isNullable = some true) ∧
      (HasDefault declaration ↔ property.isNullable ≠ some true ∧ isValue = false ∧
        nullableMode = true) ∧
      (HasInitializer declaration ↔ HasDefault declaration) := by
  dsimp only
  obtain ⟨type, projected, rfl⟩ := member_eq_ok_iff.mp run
  obtain ⟨isValue, value, marked, needed⟩ := SystemType.exists_isValue_of_project projected
  have base := TypeName.isBare_print (SystemType.read_of_project projected)
  let scalar := Member.scalar (safeName property.propertyName) type property.columnName
  have name : IsBare scalar.name := isBare_safeName property.propertyName
  have typeName : .scalar '=' ∉ scalar.typeName.toList := by
    change .scalar '=' ∉ (type.base.print ++ if type.isMarked then nullableMarker else "").toList
    cases type.isMarked with
    | true => simp [base.2, nullableMarker]
    | false => simp [base.2]
  have default : scalar.initializer.isSome = type.needsNonNullDefault := by
    change type.initializer.isSome = _
    rw [ProjectedType.initializer]
    cases type.needsNonNullDefault <;> rfl
  refine ⟨isValue, value, ?_, ?_, ?_⟩
  · rw [Member.isMarked_iff name]
    change .scalar '?' ∈
      (type.base.print ++ (if type.isMarked then nullableMarker else "") ++ "").toList ↔ _
    rw [marked]
    cases known : property.isNullable == some true with
    | true => simpa [nullableMarker] using known
    | false => simpa [base.1] using known
  · rw [Member.hasDefault_iff name typeName, default, needed]
    simp [and_assoc]
  · rw [Member.hasInitializer_iff name typeName, Member.hasDefault_iff name typeName]

theorem isSettledBy_of_member (run : property.member true = .ok member) :
    property.IsSettledBy member.declaration.text.toList := by
  obtain ⟨isValue, value, marked, default, only⟩ := exists_declares run
  have named : Names (safeName property.propertyName) member.declaration.text.toList := by
    obtain ⟨type, _, rfl⟩ := member_eq_ok_iff.mp run
    exact Member.names_declaration
      (.scalar (safeName property.propertyName) type property.columnName)
  refine ⟨named, isValue, value, ?_, ?_⟩
  · intro isStruct
    rw [only, default, isStruct]
    simp
  · intro isReference
    rw [marked, default, isReference]
    by_cases known : property.isNullable = some true
    · simp [Xor, known]
    · simp [Xor, known]

theorem not_hasInitializer_of_member (run : property.member false = .ok member) :
    ¬HasInitializer member.declaration.text.toList := by
  obtain ⟨isValue, _, _, default, only⟩ := exists_declares run
  rw [only, default]
  simp

end Property

/-! ## Navigations -/

namespace Relationship

/-- What the declaration of a navigation says, by its cardinality. -/
theorem declares (relationship : Relationship) (nullableMode : Bool) :
    let declaration := (relationship.member nullableMode).declaration.text.toList
    (IsMarked declaration ↔ relationship.cardinality = .zeroOrOne ∧ nullableMode = true) ∧
    (HasDefault declaration ↔ relationship.cardinality = .one ∧ nullableMode = true) ∧
    (HasInitializer declaration ↔ HasDefault declaration) := by
  dsimp only
  have target := relationship.primaryEntity.isBare_qualifiedName
  have name : IsBare (relationship.member nullableMode).name := by
    rw [name_member]
    exact isBare_safeName relationship.propertyName
  have typeName : .scalar '=' ∉ (relationship.member nullableMode).typeName.toList := by
    rw [member]
    cases relationship.cardinality with
    | many => simp [Member.typeName, collection, target.2]
    | one | zeroOrOne => exact target.2
  have marks (nullness : Nullness) : (nullness == .nullable) = decide (nullness = .nullable) := by
    cases nullness <;> rfl
  rw [Member.isMarked_iff name, Member.hasDefault_iff name typeName,
    Member.hasInitializer_iff name typeName, member]
  cases relationship.cardinality with
  | many =>
      simp [Member.declaredType, Member.typeName, Member.isNullable, Member.initializer, collection,
        target.1]
  | one | zeroOrOne =>
      cases nullableMode with
      | true | false =>
          simp [Member.declaredType, Member.typeName, Member.isNullable, Member.initializer, marks,
            target.1, nullableMarker]

theorem isCollection_iff {relationship : Relationship} :
    relationship.isCollection = true ↔ relationship.cardinality = .many := by
  rw [isCollection]
  cases relationship.cardinality <;> decide

theorem role_member (relationship : Relationship) (nullableMode : Bool) :
    (relationship.member nullableMode).role =
      if relationship.isCollection then "to_many" else "to_one" := by
  rw [member, isCollection]
  cases relationship.cardinality <;> rfl

/-- Whether the member that a declaration makes for a relationship has a value from the start as far
as the declaration goes: a reference is either marked or has the default, and a collection is left
to the constructor. -/
structure IsSettledBy (relationship : Relationship) (declaration : List Point) : Prop where
  named : Names (safeName relationship.propertyName) declaration
  settled :
    if relationship.isCollection then ¬IsMarked declaration ∧ ¬HasInitializer declaration
    else Xor (IsMarked declaration) (HasDefault declaration)

theorem isSettledBy_member (relationship : Relationship) :
    relationship.IsSettledBy (relationship.member true).declaration.text.toList := by
  obtain ⟨marked, default, only⟩ := relationship.declares true
  have named := (relationship.member true).names_declaration
  rw [name_member] at named
  refine ⟨named, ?_⟩
  rw [only, marked, default]
  simp only [isCollection_iff]
  cases relationship.cardinality with
  | many => simp
  | one | zeroOrOne => simp [Xor]

end Relationship

/-! ## The constructor -/

/-- The left side of an assignment: what stands before its first space. -/
def assigned (statement : List Point) : List Point :=
  statement.takeWhile (· != .scalar ' ')

/-- Whether a statement fills the collection that a declaration makes for a relationship: it assigns
a set of the elements that the declared collection has. -/
def Relationship.IsFilledBy (relationship : Relationship) (declaration statement : List Point) :
    Prop :=
  ∃ element,
    declaration = ("[" ++ hasManyAttribute ++ "] public virtual " ++ collection ++ "<" ++ element ++
      "> " ++ safeName relationship.propertyName ++ " \x7b get; set; \x7d").toList ∧
    statement = (safeName relationship.propertyName ++ " = new " ++ hashSet ++ "<" ++ element ++
      ">();").toList

/-- Whether the constructor of a class fills every collection once and does nothing else. -/
structure ClassText.FillsCollections (text : ClassText) (entity : Entity) : Prop where
  filled : ∀ relationship ∈ entity.relationships, relationship.isCollection = true →
    (∃ member ∈ text.navigations, ∃ statement ∈ text.statements,
      relationship.IsFilledBy member.declaration statement) ∧
      (text.statements.map assigned).count (safeName relationship.propertyName).toList = 1
  nothingElse : ∀ statement ∈ text.statements,
    ∃ relationship ∈ entity.relationships, relationship.isCollection = true ∧
      ∃ member ∈ text.navigations, relationship.IsFilledBy member.declaration statement

namespace Relationship

/-- The statement that fills the collection of a relationship. -/
def statement (relationship : Relationship) : List Point :=
  (safeName relationship.propertyName ++ " = new " ++ hashSet ++ "<" ++
    relationship.primaryEntity.qualifiedName ++ ">();").toList

theorem content_initializerLine (relationship : Relationship) :
    (Entity.initializerLine (safeName relationship.propertyName,
      relationship.primaryEntity.qualifiedName)).content = relationship.statement := by
  obtain ⟨first, rest, shape, known⟩ := exists_toList_safeName relationship.propertyName
  have notSpace : first ≠ ' ' := by
    rintro rfl
    exact absurd known (by decide)
  have text : (Entity.initializerLine (safeName relationship.propertyName,
      relationship.primaryEntity.qualifiedName)).text.toList = relationship.statement :=
    rfl
  have begins : relationship.statement = first :: (rest ++ (" = new " ++ hashSet ++ "<" ++
      relationship.primaryEntity.qualifiedName ++ ">();").toList) := by
    simp [statement, shape]
  rw [Line.content_of_cons (text.trans begins) notSpace, text]

theorem isFilledBy_statement {relationship : Relationship}
    (isMany : relationship.isCollection = true) (nullableMode : Bool) :
    relationship.IsFilledBy (relationship.member nullableMode).declaration.text.toList
      relationship.statement := by
  refine ⟨relationship.primaryEntity.qualifiedName, ?_, rfl⟩
  rw [member, isCollection_iff.mp isMany]
  simp [Member.declaration, Line.flat, Member.words, Member.attributeName, Member.isVirtual,
    Member.declaredType, Member.typeName, Member.isNullable, Member.name, Member.assignment,
    Member.initializer]

theorem assigned_statement (relationship : Relationship) :
    assigned relationship.statement = (safeName relationship.propertyName).toList := by
  have noSpace : ∀ character ∈ (safeName relationship.propertyName).toList,
      (character != .scalar ' ') = true := by
    intro character inName
    rw [bne_iff_ne]
    intro isSpace
    subst isSpace
    exact notMem_safeName (by decide) _ inName
  have shape : relationship.statement = (safeName relationship.propertyName).toList ++
      (" = new " ++ hashSet ++ "<" ++ relationship.primaryEntity.qualifiedName ++
        ">();").toList := by
    simp [statement]
  rw [assigned, shape, List.takeWhile_append_of_pos noSpace]
  simp

end Relationship

namespace Entity

variable {entity : Entity} {nullableMode : Bool} {plan : ClassPlan} {text : ClassText}

theorem mem_navigationMembers_iff {member : Member} :
    member ∈ entity.navigationMembers nullableMode ↔
      ∃ relationship ∈ entity.relationships, relationship.member nullableMode = member := by
  have sameMembers := List.mergeSort_perm entity.relationships Relationship.listedBefore
  simp only [navigationMembers, Relationship.sorted, List.mem_map, sameMembers.mem_iff]

/-- Every relationship has its declaration. -/
theorem exists_navigation (planned : entity.plan nullableMode = .ok plan) (shows : text.Shows plan)
    {relationship : Relationship} (given : relationship ∈ entity.relationships) :
    ∃ member ∈ text.navigations,
      member.declaration = (relationship.member nullableMode).declaration.text.toList := by
  obtain ⟨members, _, rfl⟩ := plan_eq_ok_iff.mp planned
  have listed : relationship.member nullableMode ∈ entity.navigationMembers nullableMode :=
    mem_navigationMembers_iff.mpr ⟨relationship, given, rfl⟩
  have declared := List.mem_map_of_mem listed (f := fun member => member.declaration.text.toList)
  rw [← shows.navigations] at declared
  exact List.mem_map.mp declared

theorem statements_of_plan (planned : entity.plan nullableMode = .ok plan)
    (shows : text.Shows plan) :
    text.statements.Perm
      ((entity.relationships.filter Relationship.isCollection).map Relationship.statement) := by
  obtain ⟨members, _, rfl⟩ := plan_eq_ok_iff.mp planned
  rw [shows.statements, collectionInitializers, List.map_map]
  simp only [Function.comp_def, Relationship.content_initializerLine]
  exact (List.mergeSort_perm _ _).map _

/-- No two relationships of a sound entity have one legal name. -/
theorem nodup_safeName_relationships (sound : ¬entity.IsMalformed) :
    (entity.relationships.map fun relationship => safeName relationship.propertyName).Nodup := by
  have distinct := nodup_safeName_memberNames sound
  rw [memberNames, List.map_append] at distinct
  simpa only [List.map_map, Function.comp_def] using distinct.of_append_right

/-- The constructor is made by a selection of its own, which finds the collections among the
navigations. -/
theorem fillsCollections_of_plan (sound : ¬entity.IsMalformed)
    (planned : entity.plan nullableMode = .ok plan) (shows : text.Shows plan) :
    text.FillsCollections entity := by
  have statements := statements_of_plan planned shows
  have names : (text.statements.map assigned).Perm
      ((entity.relationships.filter Relationship.isCollection).map fun relationship =>
        (safeName relationship.propertyName).toList) := by
    have assigned := statements.map assigned
    simpa only [List.map_map, Function.comp_def, Relationship.assigned_statement] using assigned
  have once : (text.statements.map assigned).Nodup := by
    have distinct := (nodup_safeName_relationships sound).map fun _ _ => Text.toList_inj.mp
    rw [List.map_map] at distinct
    rw [names.nodup_iff]
    exact distinct.sublist (List.filter_sublist.map _)
  have declared {relationship : Relationship} (given : relationship ∈ entity.relationships)
      (isMany : relationship.isCollection = true) :
      ∃ member ∈ text.navigations,
        relationship.IsFilledBy member.declaration relationship.statement := by
    obtain ⟨member, listed, declaration⟩ := exists_navigation planned shows given
    refine ⟨member, listed, ?_⟩
    rw [declaration]
    exact Relationship.isFilledBy_statement isMany nullableMode
  constructor
  · intro relationship given isMany
    obtain ⟨member, listed, filled⟩ := declared given isMany
    have selected : relationship ∈ entity.relationships.filter Relationship.isCollection :=
      List.mem_filter.mpr ⟨given, isMany⟩
    refine ⟨⟨member, listed, _, ?_, filled⟩, ?_⟩
    · exact statements.mem_iff.mpr (List.mem_map_of_mem selected)
    · apply List.count_eq_one_of_mem once
      rw [names.mem_iff]
      exact List.mem_map_of_mem selected
  · intro statement found
    obtain ⟨relationship, selected, rfl⟩ := List.mem_map.mp (statements.mem_iff.mp found)
    obtain ⟨given, isMany⟩ := List.mem_filter.mp selected
    exact ⟨relationship, given, isMany, declared given isMany⟩

end Entity

/-! ## Classes -/

/-- Whether every member of a class has one answer to where its value comes from.  The navigations
stand in an order of their own. -/
structure ClassText.SettlesReferences (text : ClassText) (entity : Entity) : Prop where
  scalars : List.Forall₂ (fun property member => property.IsSettledBy member.declaration)
    entity.properties text.properties
  navigations : ∃ relationships, relationships.Perm entity.relationships ∧
    List.Forall₂ (fun relationship member => relationship.IsSettledBy member.declaration)
      relationships text.navigations

/-- Whether nothing in a class tells of nullable reference types. -/
structure ClassText.LeavesReferencesOpen (text : ClassText) : Prop where
  noInitializer : ∀ member ∈ text.properties ++ text.navigations,
    ¬HasInitializer member.declaration
  noAssignment : ∀ line ∈ text.adapters, ¬(" = " : Text).toList <:+: line
  noMarker : ∀ member ∈ text.navigations, ¬IsMarked member.declaration

namespace Entity

variable {entity : Entity} {options : GeneratorOptions} {plan : ClassPlan} {text : ClassText}

theorem settlesReferences_of_plan (planned : entity.plan true = .ok plan)
    (shows : text.Shows plan) : text.SettlesReferences entity := by
  obtain ⟨members, run, rfl⟩ := plan_eq_ok_iff.mp planned
  constructor
  · exact forall₂_declaration shows.properties
      ((scalarMembers_eq_ok_iff.mp run).imp fun _ _ => Property.isSettledBy_of_member)
  · refine ⟨Relationship.sorted entity.relationships, List.mergeSort_perm _ _, ?_⟩
    refine forall₂_declaration shows.navigations ?_
    rw [navigationMembers, List.forall₂_map_right_iff, List.forall₂_same]
    intro relationship _
    exact relationship.isSettledBy_member

theorem leavesReferencesOpen_of_plan (planned : entity.plan false = .ok plan)
    (shows : text.Shows plan) : text.LeavesReferencesOpen := by
  obtain ⟨members, run, rfl⟩ := plan_eq_ok_iff.mp planned
  have scalars : ∀ declaration ∈ text.properties.map (·.declaration),
      ¬HasInitializer declaration := by
    rw [shows.properties, List.forall_mem_map]
    intro member listed
    rw [scalarMembers] at run
    obtain ⟨property, _, found⟩ := exists_of_mem_mapM run listed
    exact Property.not_hasInitializer_of_member (mapError_eq_ok_iff.mp found)
  have navigations : ∀ declaration ∈ text.navigations.map (·.declaration),
      ¬HasInitializer declaration ∧ ¬IsMarked declaration := by
    rw [shows.navigations, List.forall_mem_map]
    intro member listed
    obtain ⟨relationship, _, rfl⟩ := mem_navigationMembers_iff.mp listed
    obtain ⟨marked, default, only⟩ := relationship.declares false
    rw [only, marked, default]
    simp
  rw [List.forall_mem_map] at scalars navigations
  constructor
  · rw [List.forall_mem_append]
    exact ⟨scalars, fun member listed => (navigations member listed).1⟩
  · rw [shows.adapters, List.forall_mem_map]
    change ∀ line ∈ (identityMembers false).flatMap Member.adapterLines,
      ¬(" = " : Text).toList <:+: line.content
    decide
  · exact fun member listed => (navigations member listed).2

/-- A class with nullable reference types gives every reference a mark or a value, and one without
them says nothing of either.  In both the constructor fills the collections and nothing else. -/
theorem initialization_of_synthesize {code : Text}
    (run : entity.synthesize options = .ok code) :
    ∃ text : ClassText, text.IsReadFrom entity options.document code ∧
      text.FillsCollections entity ∧
      (options.nullable = true → text.SettlesReferences entity) ∧
      (options.nullable = false → text.LeavesReferencesOpen) := by
  obtain ⟨valid, plan, planned, rfl⟩ := synthesize_eq_ok_iff.mp run
  have sound := isValid_iff_not_isMalformed.mp valid
  obtain ⟨text, shows, readFrom⟩ := exists_text_of_plan planned options.fileScopedNamespace
    options.document options.indentSize
  refine ⟨text, readFrom, fillsCollections_of_plan sound planned shows, ?_, ?_⟩
  · intro enabled
    rw [enabled] at planned
    exact settlesReferences_of_plan planned shows
  · intro disabled
    rw [disabled] at planned
    exact leavesReferencesOpen_of_plan planned shows

/-- An order with a member of every kind: a value, a reference that may be null and one that must
not, the two navigations to one entity and a collection. -/
def linkedOrder : Entity where
  entityNamespace := "Shop"
  entityClass := "Order"
  properties :=
    [{ propertyName := "Id", systemType := ⟨"int", none⟩ },
     { propertyName := "Note", systemType := ⟨"string", none⟩, isNullable := some true },
     { propertyName := "class", systemType := ⟨"Shop.Stock", some false⟩ }]
  relationships :=
    [{ propertyName := "Items", primaryEntity := ⟨"Shop", "Item"⟩, cardinality := .many },
     { propertyName := "Buyer", primaryEntity := ⟨"Shop", "Buyer"⟩ },
     { propertyName := "Bill", primaryEntity := ⟨"", "Bill"⟩, cardinality := .zeroOrOne }]

theorem initialization_of_synthesize_linkedOrder :
    ∃ code text, linkedOrder.synthesize { nullable := true } = .ok code ∧
      ClassText.IsReadFrom text linkedOrder false code ∧ text.FillsCollections linkedOrder ∧
      text.SettlesReferences linkedOrder := by
  have valid : linkedOrder.IsValid := by
    unfold IsValid
    decide
  obtain ⟨code, run⟩ :=
    exists_synthesize_of_isQualifiedName { nullable := true } valid (by decide)
  obtain ⟨text, readFrom, filled, settled, _⟩ := initialization_of_synthesize run
  exact ⟨code, text, run, readFrom, filled, settled rfl⟩

end Entity

end EntityForge
