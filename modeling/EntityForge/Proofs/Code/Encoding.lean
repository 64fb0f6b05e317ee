import EntityForge.Proofs.Code.Rendering
import EntityForge.Proofs.Traversal

/-!
# Class files that can be encoded

Legal names and printed types hold no surrogate, whatever the raw ones hold.  Only the documentation
has texts of the model as they stand: the name of the table, and those of the columns.  A class file
can be encoded exactly if these can, or if there is no documentation.
-/

namespace EntityForge

open EntityForge.Identifier
open EntityForge.Layout

/-! ## Names -/

/-- No identifier character has the number of a surrogate. -/
theorem isIdentifierPart_surrogate (half : Fin 0x800) :
    Text.isIdentifierPart (.surrogate half) = false := by
  have bound := half.isLt
  have apart (ranges : List (Nat × Nat)) (within : ∀ range ∈ ranges,
      range.2 < 0xd800 ∨ 0xdfff < range.1) :
      Text.inRanges ranges (Point.surrogate half).toNat = false := by
    rw [Text.inRanges, List.any_eq_false]
    intro range listed
    have beside := within range listed
    rw [Bool.and_eq_true, decide_eq_true_eq, decide_eq_true_eq, Point.toNat, Point.firstSurrogate]
    omega
  have start := apart Text.identifierStartRanges (by decide +kernel)
  have extra := apart Text.identifierExtraRanges (by decide +kernel)
  have wide : ¬(Point.surrogate half).toNat < 0x80 := by
    simp only [Point.toNat, Point.firstSurrogate]
    omega
  simp [Text.isIdentifierPart, Text.isIdentifierStart, wide, start, extra]

theorem isForeign_surrogate (half : Fin 0x800) : isForeign (.surrogate half) = true := by
  simp [isForeign, isIdentifierPart_surrogate, verbatimSign]

/-- What holds no foreign character can be encoded. -/
theorem isEncodable_of_forall_notMem {text : Text}
    (absent : ∀ character, isForeign character = true → character ≠ '.' → character ∉ text.toList) :
    text.isEncodable = true := by
  rw [Text.isEncodable_iff]
  intro point member
  cases point with
  | scalar => rfl
  | surrogate half =>
      exact absurd member (absent _ (isForeign_surrogate half) (by simp))

theorem isEncodable_safeName (name : Text) : (safeName name).isEncodable = true :=
  isEncodable_of_forall_notMem fun _ foreign _ => notMem_safeName foreign name

theorem isEncodable_safeQualifiedName (name : Text) :
    (safeQualifiedName name).isEncodable = true :=
  isEncodable_of_forall_notMem fun _ foreign noDot => notMem_safeQualifiedName foreign noDot name

theorem EntityReference.isEncodable_qualifiedName (reference : EntityReference) :
    reference.qualifiedName.isEncodable = true :=
  isEncodable_of_forall_notMem fun _ foreign noDot => notMem_qualifiedName foreign noDot reference

theorem TypeName.isEncodable_print {text : Text} {tree : TypeTree}
    (read : TypeName.read text = .ok tree) : tree.print.isEncodable = true := by
  rw [Text.isEncodable_iff]
  intro point member
  cases point with
  | scalar => rfl
  | surrogate half =>
      have known := isTypeCharacter_of_mem_print read _ member
      simp [isTypeCharacter, isNamePart, Point.isAlpha, Point.isDigit] at known

/-! ## Lines -/

namespace Layout

/-- Whether the text of every line can be encoded. -/
def AreEncodable (lines : List Line) : Prop :=
  ∀ line ∈ lines, line.text.isEncodable = true

variable {lines more : List Line}

@[simp] theorem areEncodable_nil : AreEncodable [] :=
  List.forall_mem_nil _

@[simp] theorem areEncodable_cons {line : Line} :
    AreEncodable (line :: lines) ↔ line.text.isEncodable = true ∧ AreEncodable lines :=
  List.forall_mem_cons

@[simp] theorem areEncodable_append :
    AreEncodable (lines ++ more) ↔ AreEncodable lines ∧ AreEncodable more :=
  List.forall_mem_append

@[simp] theorem areEncodable_nest : AreEncodable (nest lines) ↔ AreEncodable lines :=
  List.forall_mem_map

@[simp] theorem areEncodable_braced : AreEncodable (braced lines) ↔ AreEncodable lines := by
  simp [braced, Line.flat]

@[simp] theorem areEncodable_region {title : Text} :
    AreEncodable (region title lines) ↔ title.isEncodable = true ∧ AreEncodable lines := by
  simp [region, Line.flat, Text.isEncodable_append]

theorem areEncodable_flatMap {α : Type} {items : List α} {linesOf : α → List Line} :
    AreEncodable (items.flatMap linesOf) ↔ ∀ item ∈ items, AreEncodable (linesOf item) :=
  List.forall_mem_flatMap

/-- Rendering adds nothing to lines that could not be encoded. -/
theorem isEncodable_render {unit : Nat} :
    (render unit lines).isEncodable = true ↔ AreEncodable lines := by
  induction lines with
  | nil => exact iff_of_true rfl areEncodable_nil
  | cons line rest ih =>
      have spaces (count : Nat) :
          (Text.ofList (List.replicate count (.scalar ' '))).isEncodable = true := by
        rw [Text.isEncodable_iff]
        exact fun point member => List.eq_of_mem_replicate member ▸ rfl
      have first : (line.render unit).isEncodable = line.text.isEncodable := by
        rw [Line.render]
        split
        next empty =>
          rw [Text.isEmpty_iff.mp empty]
          rfl
        next => simp [Text.isEncodable_append, spaces]
      rw [areEncodable_cons, ← ih, render, List.map_cons, Text.join_cons, Text.isEncodable_append,
        first, Bool.and_eq_true, render]

/-- The lines of a text can be encoded if the text can. -/
@[simp] theorem areEncodable_ofText {text : Text} :
    AreEncodable (Line.ofText text) ↔ text.isEncodable = true := by
  have whole := Text.intercalate_splitOn (.scalar '\n') text.toList
  simp only [AreEncodable, Line.ofText, Text.lines, Text.pieces, List.forall_mem_map, Line.flat,
    Text.isEncodable_iff]
  constructor
  · intro each point member
    rw [← whole] at member
    rcases Text.mem_intercalate member with separator | ⟨piece, found, inPiece⟩
    · cases List.mem_singleton.mp separator
      rfl
    · exact each piece found point inPiece
  · intro all piece found point inPiece
    apply all
    rw [← whole]
    exact Text.subset_intercalate found inPiece

@[simp] theorem areEncodable_documentation {summary value : Text} {seeAlso : List Text} :
    AreEncodable (documentation summary value seeAlso) ↔
      summary.isEncodable = true ∧ value.isEncodable = true ∧
        ∀ name ∈ seeAlso, name.isEncodable = true := by
  rw [documentation]
  by_cases absent : value = ""
  · subst absent
    simp [areEncodable_flatMap, Text.isEncodable_append]
  · simp [areEncodable_flatMap, Text.isEncodable_append, absent]

end Layout

/-! ## Members -/

namespace Member

theorem areEncodable_lines (member : Member) (document : Bool)
    (name : member.name.isEncodable = true) (typeName : member.typeName.isEncodable = true) :
    AreEncodable (member.lines document) ↔ (document = true → member.summary.isEncodable = true ∧
      member.value.isEncodable = true ∧ ∀ name ∈ member.seeAlso, name.isEncodable = true) := by
  have declaration : member.declaration.text.isEncodable = true :=
    declaration_of_parts (fun text => text.isEncodable = true)
      (fun left right first second => by rw [Text.isEncodable_append, first, second]; rfl)
      (by decide) name typeName
  cases document <;> simp [Member.lines, declaration]

end Member

/-- Only the name of its column can keep a property from being encoded. -/
theorem Property.areEncodable_lines {property : Property} {nullableMode : Bool} {member : Member}
    (run : property.member nullableMode = .ok member) (document : Bool) :
    AreEncodable (member.lines document) ↔
      (document = true → property.columnName.isEncodable = true) := by
  obtain ⟨type, projected, rfl⟩ := Property.member_eq_ok_iff.mp run
  have base := TypeName.isEncodable_print (SystemType.read_of_project projected)
  have printed : type.printed.isEncodable = true := by
    rw [ProjectedType.printed]
    cases type.isMarked <;> simp [Text.isEncodable_append, base, nullableMarker]
  rw [Member.areEncodable_lines (.scalar (safeName property.propertyName) type property.columnName)
    document (isEncodable_safeName property.propertyName) printed]
  simp [Member.summary, Member.value, Member.seeAlso, Text.isEncodable_append]

theorem Relationship.areEncodable_lines (relationship : Relationship)
    (nullableMode document : Bool) :
    AreEncodable ((relationship.member nullableMode).lines document) := by
  have name := isEncodable_safeName relationship.propertyName
  have target := relationship.primaryEntity.isEncodable_qualifiedName
  have links : ∀ link ∈ relationship.properties.map safeName, link.isEncodable = true :=
    List.forall_mem_map.mpr fun raw _ => isEncodable_safeName raw
  rw [Relationship.member]
  cases relationship.cardinality with
  | many =>
      have typeName : (Member.toMany (safeName relationship.propertyName)
          relationship.primaryEntity.qualifiedName).typeName.isEncodable = true := by
        simp [Member.typeName, collection, Text.isEncodable_append, target]
      refine (Member.areEncodable_lines (.toMany (safeName relationship.propertyName)
        relationship.primaryEntity.qualifiedName) document name typeName).mpr fun _ => ?_
      simp [Member.summary, Member.value, Member.seeAlso, Text.isEncodable_append, target]
  | one | zeroOrOne =>
      refine (Member.areEncodable_lines (.toOne (safeName relationship.propertyName)
        relationship.primaryEntity.qualifiedName _ _) document name target).mpr fun _ => ?_
      refine ⟨?_, ?_, links⟩
      · simp [Member.summary, Text.isEncodable_append, target]
      · simp [Member.value, Text.isEncodable_append, target]

/-! ## Classes -/

namespace Entity

/-- Whether the texts that the documentation of an entity shows can be encoded. -/
def IsEncodable (entity : Entity) (document : Bool) : Prop :=
  document = true → entity.documentedTable.isEncodable = true ∧
    ∀ property ∈ entity.properties, property.columnName.isEncodable = true

variable {entity : Entity} {options : GeneratorOptions}

/-! Everything but the documentation is made of legal names, printed types and fixed words. -/

theorem areEncodable_baseLines (entity : Entity) : AreEncodable entity.baseLines := by
  rw [baseLines]
  split
  next =>
    simp [Line.flat, Text.isEncodable_append, isEncodable_safeQualifiedName, identifiableOfInt]
  next => exact areEncodable_nil

theorem areEncodable_initializerLines (entity : Entity) :
    AreEncodable (entity.collectionInitializers.map initializerLine) := by
  rw [collectionInitializers, List.map_map]
  refine List.forall_mem_map.mpr fun relationship _ => ?_
  simp [initializerLine, Line.flat, Text.isEncodable_append, isEncodable_safeName,
    relationship.primaryEntity.isEncodable_qualifiedName, hashSet]

theorem areEncodable_navigations (entity : Entity) (nullableMode document : Bool) :
    AreEncodable
      ((entity.navigationMembers nullableMode).flatMap (Member.lines document)) := by
  rw [areEncodable_flatMap]
  intro member listed
  obtain ⟨relationship, _, rfl⟩ := List.mem_map.mp listed
  exact relationship.areEncodable_lines nullableMode document

theorem areEncodable_adapters (nullableMode : Bool) :
    AreEncodable ((identityMembers nullableMode).flatMap Member.adapterLines) := by
  cases nullableMode <;> exact List.all_eq_true.mp (by decide)

theorem areEncodable_fileLines (entity : Entity) (fileScoped : Bool) {lines : List Line} :
    AreEncodable (entity.fileLines fileScoped lines) ↔ AreEncodable lines := by
  have namespaceName := isEncodable_safeQualifiedName entity.entityNamespace
  cases fileScoped <;>
    simp [fileLines, Line.flat, Line.blank, Text.isEncodable_append, namespaceName]

/-- Scalar members can be encoded if their columns can, or if they are not documented. -/
theorem areEncodable_scalars {nullableMode : Bool} {members : List Member}
    (found : entity.scalarMembers nullableMode = .ok members) (document : Bool) :
    AreEncodable (members.flatMap (Member.lines document)) ↔
      ∀ property ∈ entity.properties,
        document = true → property.columnName.isEncodable = true := by
  rw [areEncodable_flatMap]
  exact forall_mem_iff_of_forall₂ (scalarMembers_eq_ok_iff.mp found)
    fun _ _ run => Property.areEncodable_lines run document

/-- The code of an entity can be encoded exactly if what its documentation shows can be. -/
theorem isEncodable_iff_of_synthesize {code : Text}
    (run : entity.synthesize options = .ok code) :
    code.isEncodable = true ↔ entity.IsEncodable options.document := by
  obtain ⟨_, plan, planned, rfl⟩ := synthesize_eq_ok_iff.mp run
  obtain ⟨members, found, rfl⟩ := plan_eq_ok_iff.mp planned
  have className : entity.className.isEncodable = true := isEncodable_safeName _
  have navigations := entity.areEncodable_navigations options.nullable options.document
  have scalars := areEncodable_scalars found options.document
  rw [isEncodable_render, areEncodable_fileLines, classLines, constructorLines]
  cases documented : options.document
  all_goals
    rw [documented] at navigations scalars
    simp [Line.flat, Line.blank, Text.isEncodable_append, className,
      entity.areEncodable_baseLines, entity.areEncodable_initializerLines, scalars, navigations,
      areEncodable_adapters, IsEncodable]

end Entity

end EntityForge
