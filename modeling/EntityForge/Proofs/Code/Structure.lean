import EntityForge.Proofs.Code.Documentation
import EntityForge.Proofs.Layout.Structure

/-!
# The structure of class files

Legal names and printed types hold no structural character, whatever characters the raw ones hold.
All braces and all marks of regions are therefore those of the layout, which pairs them, and the
lines of a class are counted by its members.
-/

namespace EntityForge

open EntityForge.Identifier
open EntityForge.Layout

/-! ## Neutral names -/

theorem isNeutral_safeName (name : Text) : IsNeutral (safeName name) := by
  have foreign : ∀ character ∈ structuralCharacters, isForeign character = true :=
    List.all_eq_true.mp (by decide)
  exact .inert fun character structural => notMem_safeName (foreign character structural) name

theorem isNeutral_safeQualifiedName (name : Text) : IsNeutral (safeQualifiedName name) :=
  .intercalate (.inert (by decide))
    (List.forall_mem_map.mpr fun piece _ => isNeutral_safeName piece)

theorem EntityReference.isNeutral_qualifiedName (reference : EntityReference) :
    IsNeutral reference.qualifiedName := by
  have foreign : ∀ character ∈ structuralCharacters,
      isForeign character = true ∧ character ≠ .scalar '.' := by decide
  refine .inert fun character structural => ?_
  obtain ⟨isForeign, noDot⟩ := foreign character structural
  exact notMem_qualifiedName isForeign noDot reference

theorem TypeName.isNeutral_print {text : Text} {tree : TypeTree}
    (read : TypeName.read text = .ok tree) : IsNeutral tree.print := by
  have foreign : (structuralCharacters.any isTypeCharacter) = false := by decide
  refine .inert fun character structural member => ?_
  exact List.any_eq_false.mp foreign character structural
    (isTypeCharacter_of_mem_print read character member)

/-! ## Neutral declarations -/

namespace Member

/-- A declaration is neutral where the name and the type of the member are. -/
theorem isNeutral_declaration {member : Member} (name : IsNeutral member.name)
    (typeName : IsNeutral member.typeName) : IsNeutral member.declaration.text := by
  have accessors : IsNeutral "\x7b get; set; \x7d" := by
    have within : Text.IsBalanced '{' '}' (" get; set; " : Text).toList :=
      .of_notMem (by decide) (by decide)
    exact ⟨by decide, within.enclose (by decide)⟩
  have others : ∀ text ∈ declarationTexts.erase "\x7b get; set; \x7d", IsInert text := by decide
  have fixed : ∀ text ∈ declarationTexts, IsNeutral text := by
    intro text listed
    by_cases same : text = "\x7b get; set; \x7d"
    · exact same ▸ accessors
    · exact .inert (others text ((List.mem_erase_of_ne same).mpr listed))
  exact declaration_of_parts IsNeutral (fun _ _ => .append) fixed name typeName

end Member

theorem Relationship.isNeutral_declaration (relationship : Relationship) (nullableMode : Bool) :
    IsNeutral (relationship.member nullableMode).declaration.text := by
  have name := isNeutral_safeName relationship.propertyName
  have target := relationship.primaryEntity.isNeutral_qualifiedName
  rw [Relationship.member]
  cases relationship.cardinality with
  | many =>
      have collectionType : IsNeutral (collection ++ "<" ++ relationship.primaryEntity.qualifiedName
          ++ ">") :=
        ((IsNeutral.inert (by decide)).append target).append (.inert (by decide))
      exact Member.isNeutral_declaration name collectionType
  | one | zeroOrOne => exact Member.isNeutral_declaration name target

theorem Property.isNeutral_declaration {property : Property} {nullableMode : Bool}
    {member : Member} (run : property.member nullableMode = .ok member) :
    IsNeutral member.declaration.text := by
  obtain ⟨type, projected, rfl⟩ := Property.member_eq_ok_iff.mp run
  have base := TypeName.isNeutral_print (SystemType.read_of_project projected)
  have printed : IsNeutral type.printed := by
    rw [ProjectedType.printed]
    cases type.isMarked with
    | true => exact base.append (.inert (by decide))
    | false => exact base.append (.inert (by decide))
  exact Member.isNeutral_declaration (isNeutral_safeName property.propertyName) printed

/-! ## Regions of a class -/

namespace Layout.IsStructured

variable {lines : List Line} {regions : List Region}

/-- Structured lines behind a blank one. -/
theorem spaced (structured : IsStructured lines regions) :
    IsStructured (.blank :: lines) regions :=
  structured.cons (.inert (by decide))

/-- Lines without regions form a region of their own. -/
theorem region {title : Text} (neutral : IsNeutral title) (structured : IsStructured lines []) :
    IsStructured (EntityForge.region title lines) [⟨title, lines.map Line.content⟩] := by
  have mark : (Line.flat ("#region " ++ title)).text.toList =
      .scalar '#' :: (("region " : Text).toList ++ title.toList) := by
    rw [Line.flat, Text.toList_append]
    rfl
  refine ⟨?_, ?_⟩
  · have opener : Text.IsBalanced '{' '}' ("#region " ++ title).toList := by
      rw [Text.toList_append]
      exact .append (.of_notMem (by decide) (by decide)) neutral.balanced
    have closer : Text.IsBalanced '{' '}' ("#endregion" : Text).toList :=
      .of_notMem (by decide) (by decide)
    rw [EntityForge.region, List.flatMap_append]
    simpa [Line.flat] using (opener.append structured.balanced).append closer
  · rw [EntityForge.region, List.map_append, List.map_cons, Line.content_of_cons mark (by decide)]
    exact .region structured.regions.notMem .nil

end Layout.IsStructured

/-- The regions of a planned class. -/
def ClassPlan.regions (plan : ClassPlan) : List Region :=
  [ ⟨"Generated Constructor", (plan.initializers.map Entity.initializerLine).map Line.content⟩,
    ⟨"Generated Properties", (plan.properties.flatMap (Member.lines false)).map Line.content⟩,
    ⟨"Generated Relationships",
      (plan.relationships.flatMap (Member.lines false)).map Line.content⟩,
    ⟨"Generated IIdentifiable Properties",
      (plan.identity.flatMap Member.adapterLines).map Line.content⟩ ]

theorem Member.isStructured_adapterLines {member : Member}
    (header : IsNeutral (member.declaredType ++ " " ++ member.interface ++ "." ++ member.name))
    (getter : IsNeutral member.getter) : IsStructured member.adapterLines [] := by
  have reading : IsNeutral ("get => " ++ member.getter ++ ";") :=
    ((IsNeutral.inert (by decide)).append getter).append (.inert (by decide))
  have writing : IsNeutral "set \x7b \x7d" := by
    have before : Text.IsBalanced '{' '}' ("set " : Text).toList :=
      .of_notMem (by decide) (by decide)
    have within : Text.IsBalanced '{' '}' (" " : Text).toList := .of_notMem (by decide) (by decide)
    exact ⟨by decide, before.append (within.enclose (by decide))⟩
  exact ((IsStructured.nil.cons writing).cons reading).braced.cons header

theorem isStructured_identity (nullableMode : Bool) :
    IsStructured ((identityMembers nullableMode).flatMap Member.adapterLines) [] := by
  have inert : ∀ member ∈ identityMembers nullableMode,
      IsInert (member.declaredType ++ " " ++ member.interface ++ "." ++ member.name) ∧
        IsInert member.getter := by
    cases nullableMode <;> decide
  exact .flatMap fun member listed => Member.isStructured_adapterLines
    (.inert (inert member listed).1) (.inert (inert member listed).2)

namespace Entity

variable {entity : Entity} {nullableMode : Bool} {plan : ClassPlan}

theorem isStructured_initializers (entity : Entity) :
    IsStructured (entity.collectionInitializers.map initializerLine) [] := by
  rw [collectionInitializers, List.map_map]
  refine .ofNeutral (List.forall_mem_map.mpr fun relationship _ => ?_)
  have name := isNeutral_safeName relationship.propertyName
  have target := relationship.primaryEntity.isNeutral_qualifiedName
  exact ((((name.append (.inert (by decide))).append (.inert (by decide))).append
    (.inert (by decide))).append target).append (.inert (by decide))

theorem isStructured_properties {members : List Member}
    (run : entity.scalarMembers nullableMode = .ok members) :
    IsStructured (members.flatMap (Member.lines false)) [] := by
  refine .flatMap fun member inMembers => .cons ?_ .nil
  rw [scalarMembers] at run
  obtain ⟨property, _, found⟩ := exists_of_mem_mapM run inMembers
  exact Property.isNeutral_declaration (mapError_eq_ok_iff.mp found)

theorem isStructured_relationships (entity : Entity) (nullableMode : Bool) :
    IsStructured ((entity.navigationMembers nullableMode).flatMap (Member.lines false)) [] := by
  rw [navigationMembers, List.flatMap_map]
  exact .flatMap fun relationship _ =>
    .cons (relationship.isNeutral_declaration nullableMode) .nil

theorem isStructured_baseLines (entity : Entity) : IsStructured entity.baseLines [] := by
  rw [baseLines]
  split
  next base _ =>
    have name := isNeutral_safeQualifiedName (Text.ofList (Text.trim base.toList))
    have heading : IsNeutral (": " ++ safeQualifiedName (Text.ofList (Text.trim base.toList)) ++
        ", " ++ identifiableOfInt) :=
      (((IsNeutral.inert (by decide)).append name).append (.inert (by decide))).append
        (.inert (by decide))
    exact (IsStructured.nil.cons heading).nest
  next => exact .nil

/-- The braces of a class pair up, and its regions are those of its plan. -/
theorem isStructured_class (planned : entity.plan nullableMode = .ok plan) :
    IsStructured (entity.classLines false plan) plan.regions := by
  obtain ⟨members, run, rfl⟩ := plan_eq_ok_iff.mp planned
  have name := isNeutral_safeName entity.entityClass
  have heading : IsNeutral ("public partial class " ++ entity.className) :=
    (IsNeutral.inert (by decide)).append name
  have constructorHeading : IsNeutral (Line.flat ("public " ++ entity.className ++ "()")).text :=
    ((IsNeutral.inert (by decide)).append name).append (.inert (by decide))
  have constructorTitle : IsNeutral "Generated Constructor" := .inert (by decide)
  have propertiesTitle : IsNeutral "Generated Properties" := .inert (by decide)
  have relationshipsTitle : IsNeutral "Generated Relationships" := .inert (by decide)
  have identityTitle : IsNeutral "Generated IIdentifiable Properties" := .inert (by decide)
  have initializers := (entity.isStructured_initializers.region constructorTitle).braced.cons
    constructorHeading
  have properties := ((isStructured_properties run).region propertiesTitle).spaced
  have relationships :=
    ((entity.isStructured_relationships nullableMode).region relationshipsTitle).spaced
  have identity := ((isStructured_identity nullableMode).region identityTitle).spaced
  have body := ((initializers.append properties).append relationships).append identity
  exact (entity.isStructured_baseLines.cons heading).append body.braced

theorem isStructured_file {lines : List Line} {regions : List Region} (entity : Entity)
    (fileScoped : Bool) (structured : IsStructured lines regions) :
    IsStructured (entity.fileLines fileScoped lines) regions := by
  have name := isNeutral_safeQualifiedName entity.entityNamespace
  have heading : IsNeutral ("namespace " ++ safeQualifiedName entity.entityNamespace) :=
    (IsNeutral.inert (by decide)).append name
  cases fileScoped with
  | true => exact structured.spaced.cons (heading.append (.inert (by decide)))
  | false => exact structured.braced.cons heading

/-! ## Lines of a file -/

/-- The number of lines that name base classes. -/
theorem length_baseLines (entity : Entity) :
    entity.baseLines.length = if entity.baseClass?.isSome then 1 else 0 := by
  rw [baseLines]
  cases entity.baseClass? with
  | none => rfl
  | some base => rfl

theorem length_identity (nullableMode : Bool) :
    ((identityMembers nullableMode).flatMap Member.adapterLines).length = 15 := by
  cases nullableMode <;> rfl

theorem length_scalarMembers {members : List Member}
    (run : entity.scalarMembers nullableMode = .ok members) :
    members.length = entity.properties.length :=
  (scalarMembers_eq_ok_iff.mp run).length_eq.symm

theorem length_navigationMembers (entity : Entity) (nullableMode : Bool) :
    (entity.navigationMembers nullableMode).length = entity.relationships.length := by
  rw [navigationMembers, List.length_map, Relationship.sorted, List.length_mergeSort]

theorem length_collectionInitializers (entity : Entity) :
    entity.collectionInitializers.length =
      (entity.relationships.filter Relationship.isCollection).length := by
  rw [collectionInitializers, List.length_map, Relationship.sorted, List.length_mergeSort]

/-- Undocumented members take a line each. -/
theorem flatMap_lines (members : List Member) :
    members.flatMap (Member.lines false) = members.map Member.declaration :=
  List.map_eq_flatMap.symm

/-- A class has a line for each of its members, and one more for each collection to fill. -/
theorem length_classLines (planned : entity.plan nullableMode = .ok plan) :
    (entity.classLines false plan).length =
      32 + entity.properties.length + entity.relationships.length +
        (entity.relationships.filter Relationship.isCollection).length +
        if entity.baseClass?.isSome then 1 else 0 := by
  obtain ⟨members, run, rfl⟩ := plan_eq_ok_iff.mp planned
  simp only [classLines, constructorLines, Layout.braced, Layout.nest, EntityForge.region,
    flatMap_lines, List.length_append, List.length_cons, List.length_map, List.length_nil,
    length_baseLines, length_identity, length_scalarMembers run, length_navigationMembers,
    length_collectionInitializers, Bool.false_eq_true, if_false]
  omega

theorem fileLines_ne_nil (entity : Entity) (fileScoped : Bool) (lines : List Line) :
    entity.fileLines fileScoped lines ≠ [] := by
  cases fileScoped <;> exact List.cons_ne_nil _ _

theorem length_fileLines (planned : entity.plan nullableMode = .ok plan) (fileScoped : Bool) :
    (entity.fileLines fileScoped (entity.classLines false plan)).length =
      (if fileScoped then 34 else 35) + entity.properties.length + entity.relationships.length +
        (entity.relationships.filter Relationship.isCollection).length +
        if entity.baseClass?.isSome then 1 else 0 := by
  have count := length_classLines planned
  cases fileScoped with
  | true =>
      simp only [fileLines, if_true, List.length_cons, count]
      omega
  | false =>
      simp only [fileLines, Bool.false_eq_true, if_false, Layout.braced, Layout.nest,
        List.length_cons, List.length_append, List.length_map, List.length_nil, count]
      omega

end Entity

/-! ## Declared properties -/

namespace Member

/-- The text of a declaration begins with no space. -/
theorem content_declaration (member : Member) :
    member.declaration.content = member.declaration.text.toList := by
  obtain ⟨word, others, first, rest, shape, start, notSpace, _⟩ := member.exists_words
  obtain ⟨more, joined⟩ := Text.exists_toList_intercalate start " " others
  have begins : member.declaration.text.toList = first :: (more ++ member.assignment.toList) := by
    rw [declaration, Line.flat, Text.toList_append, shape, joined, List.cons_append]
  exact Line.content_of_cons begins notSpace

theorem text_declaration_scalar (name column : Text) (type : ProjectedType) :
    (scalar name type column).declaration.text =
      "[" ++ attrAttribute ++ "] public " ++ type.printed ++ " " ++ name ++
        " \x7b get; set; \x7d" ++
        if type.needsNonNullDefault then " = " ++ nonNullDefault ++ ";" else "" := by
  rw [← Text.toList_inj]
  cases required : type.needsNonNullDefault <;>
    simp [declaration, Line.flat, words, attributeName, isVirtual, declaredType, typeName,
      isNullable, Member.name, assignment, initializer, ProjectedType.initializer, required]

end Member

/-- Whether a line, without its indentation, declares the scalar member for a property: by its type
as it is printed, its legal name, and a default where the type requires one. -/
def Property.IsDeclaredBy (nullableMode : Bool) (property : Property) (line : List Point) : Prop :=
  ∃ type, property.systemType.project property.isNullable nullableMode = .ok type ∧
    line = ("[" ++ attrAttribute ++ "] public " ++ type.printed ++ " " ++
      safeName property.propertyName ++ " \x7b get; set; \x7d" ++
      if type.needsNonNullDefault then " = " ++ nonNullDefault ++ ";" else "").toList

theorem Property.isDeclaredBy_declaration {property : Property} {nullableMode : Bool}
    {member : Member} (run : property.member nullableMode = .ok member) :
    property.IsDeclaredBy nullableMode member.declaration.content := by
  obtain ⟨type, projected, rfl⟩ := Property.member_eq_ok_iff.mp run
  refine ⟨type, projected, ?_⟩
  rw [Member.content_declaration, Member.text_declaration_scalar]

namespace Entity

variable {entity : Entity} {options : GeneratorOptions}

/-- The scalar members are declared line by line in the order of the properties. -/
theorem declared_properties {nullableMode : Bool} {members : List Member}
    (run : entity.scalarMembers nullableMode = .ok members) :
    List.Forall₂ (Property.IsDeclaredBy nullableMode) entity.properties
      ((members.flatMap (Member.lines false)).map Line.content) := by
  rw [flatMap_lines, List.map_map, List.forall₂_map_right_iff]
  exact (scalarMembers_eq_ok_iff.mp run).imp fun _ _ => Property.isDeclaredBy_declaration

/-- Whatever characters the raw names of an entity hold, its file has a line for each member and
those of the layout, its braces pair up, and its four regions enclose the lines they are made for,
with the properties declared in their order. -/
theorem structure_of_synthesize {code : Text}
    (run : entity.synthesize { options with document := false } = .ok code) :
    code.toList.getLast? = some (.scalar '\n') ∧
    Text.IsBalanced '{' '}' code.toList ∧
    ∃ lines, Text.splitOn '\n' code.toList = lines ++ [[]] ∧
      lines.length = (if options.fileScopedNamespace then 34 else 35) +
        entity.properties.length + entity.relationships.length +
        (entity.relationships.filter Relationship.isCollection).length +
        (if entity.baseClass?.isSome then 1 else 0) ∧
      ∃ collections properties relationships identity,
        HasRegions (lines.map withoutIndentation)
          [ ⟨"Generated Constructor", collections⟩, ⟨"Generated Properties", properties⟩,
            ⟨"Generated Relationships", relationships⟩,
            ⟨"Generated IIdentifiable Properties", identity⟩ ] ∧
        collections.length = (entity.relationships.filter Relationship.isCollection).length ∧
        properties.length = entity.properties.length ∧
        relationships.length = entity.relationships.length ∧
        identity.length = 15 ∧
        List.Forall₂ (Property.IsDeclaredBy options.nullable) entity.properties properties := by
  obtain ⟨_, plan, planned, rfl⟩ := synthesize_eq_ok_iff.mp run
  have structured := entity.isStructured_file options.fileScopedNamespace
    (isStructured_class planned)
  have single := (entity.annotates_file options.fileScopedNamespace
    (annotates_class planned)).isSingle_plain
  have count := length_fileLines planned options.fileScopedNamespace
  have filled := entity.fileLines_ne_nil options.fileScopedNamespace (entity.classLines false plan)
  obtain ⟨members, found, rfl⟩ := plan_eq_ok_iff.mp planned
  refine ⟨Layout.getLast?_render filled _, structured.isBalanced_render _, _,
    Layout.splitOn_render single _, ?_, _, _, _, _, structured.hasRegions_physical _,
    ?_, ?_, ?_, ?_, declared_properties found⟩
  · rw [List.length_map]
    exact count
  · rw [List.length_map, List.length_map, length_collectionInitializers]
  · rw [List.length_map, flatMap_lines, List.length_map, length_scalarMembers found]
  · rw [List.length_map, flatMap_lines, List.length_map, length_navigationMembers]
  · rw [List.length_map, length_identity]

/-- An order whose names would close braces and regions and begin new lines, if they were written
as they are. -/
def unrulyOrder : Entity where
  entityNamespace := "Shop;\n\x7d.#region"
  entityClass := "Or\x7bder\n\x7d"
  entityBaseClass := some "#endregion\n"
  properties :=
    [{ propertyName := "#endregion\n\x7d", systemType := ⟨"System.Int32\n", none⟩ }]
  relationships :=
    [{ propertyName := "Items \x7b\n#region", primaryEntity := ⟨"Shop", "It\nem#"⟩,
       cardinality := .many }]

theorem structure_of_synthesize_unrulyOrder :
    ∃ code, unrulyOrder.synthesize { document := false, fileScopedNamespace := true } = .ok code ∧
      Text.IsBalanced '{' '}' code.toList ∧
      ∃ lines, Text.splitOn '\n' code.toList = lines ++ [[]] ∧ lines.length = 38 := by
  have valid : unrulyOrder.IsValid := by
    unfold IsValid
    decide
  have printable : ∀ property ∈ unrulyOrder.properties, property.systemType.IsPrintable :=
    List.forall_mem_singleton.mpr (SystemType.isPrintable_of_isQualifiedName (by decide))
  let options : GeneratorOptions := { fileScopedNamespace := true }
  obtain ⟨code, run⟩ : ∃ code,
      unrulyOrder.synthesize { options with document := false } = .ok code :=
    exists_synthesize_iff.mpr ⟨valid, printable⟩
  obtain ⟨_, balanced, lines, split, count, _⟩ := structure_of_synthesize run
  exact ⟨code, run, balanced, lines, split, count⟩

end Entity

end EntityForge
