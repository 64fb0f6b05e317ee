import EntityForge.Proofs.Code.Reading
import EntityForge.Proofs.TypeName.Names

/-!
# Keywords in the types of members

The names in the type of a member are those of the raw type name, with aliases in place of built-in
names.  Unlike the names of members and classes they are not made legal: a keyword among their words
is printed where the raw name has it, and nowhere else.
-/

namespace EntityForge

namespace TypeName

open EntityForge.Text

/-- Whether a word of a dotted name is a reserved keyword. -/
def hasKeyword (name : Text) : Bool :=
  (pieces '.' name).any Identifier.isKeyword

/-- Whether a name is the alias of a built-in type. -/
def isAlias (name : Text) : Bool :=
  (aliases.map Prod.snd).contains name

/-- Whether a name has a keyword among its words, and not as the alias of a built-in type. -/
def NameUse.isStray (use : NameUse) : Bool :=
  hasKeyword use.name && (use.isApplied || !isAlias use.name)

/-- The names with stray keywords that a text mentions. -/
def strayUses (text : Text) : List NameUse :=
  (nameUses text.toList).filter NameUse.isStray

example : strayUses "int<int[]>" = [⟨"int", true⟩] := by
  decide

/-- Keywords are written in lower case, and the words of built-in names with a capital. -/
theorem hasKeyword_of_mem_aliases {entry : Text × Text} (listed : entry ∈ aliases) :
    hasKeyword entry.1 = false := by
  have capital : ∀ entry ∈ aliases, ∀ word ∈ pieces '.' entry.1,
      (word.toList.head?.bind Point.char?).any Char.isUpper = true := by
    decide +kernel
  have small : ∀ word ∈ Identifier.keywords,
      (word.toList.head?.bind Point.char?).any Char.isUpper = false := by
    decide +kernel
  rw [hasKeyword, List.any_eq_false]
  intro word inName keyword
  have reserved : word ∈ Identifier.keywords := List.contains_iff_mem.mp keyword
  cases (small word reserved).symm.trans (capital entry listed word inName)

namespace NameUse

theorem isStray_of_mem_aliases {entry : Text × Text} (listed : entry ∈ aliases) :
    (NameUse.mk entry.1 false).isStray = false ∧ (NameUse.mk entry.2 false).isStray = false := by
  have isAlias : isAlias entry.2 = true :=
    List.contains_iff_mem.mpr (List.mem_map_of_mem listed)
  simp [isStray, hasKeyword_of_mem_aliases listed, isAlias]

/-- A name is stray when it is printed exactly if it was before. -/
theorem isStray_aliased (use : NameUse) : use.aliased.isStray = use.isStray := by
  obtain ⟨name, isApplied⟩ := use
  cases isApplied with
  | true => rfl
  | false =>
      rcases aliasOf_cases name with same | listed
      · exact congrArg (fun name => (NameUse.mk name false).isStray) same
      · obtain ⟨before, after⟩ := isStray_of_mem_aliases listed
        exact after.trans before.symm

/-- Stray names are printed as they are. -/
theorem aliased_of_isStray {use : NameUse} (stray : use.isStray = true) : use.aliased = use := by
  obtain ⟨name, isApplied⟩ := use
  cases isApplied with
  | true => rfl
  | false =>
      rcases aliasOf_cases name with same | listed
      · exact congrArg (NameUse.mk · false) same
      · cases stray.symm.trans (isStray_of_mem_aliases listed).1

theorem filter_isStray_map_aliased (uses : List NameUse) :
    (uses.map aliased).filter isStray = uses.filter isStray := by
  have same : isStray ∘ aliased = isStray := funext isStray_aliased
  have kept : (uses.filter isStray).map aliased = (uses.filter isStray).map id :=
    List.map_congr_left fun use member => aliased_of_isStray (List.mem_filter.mp member).2
  rw [List.filter_map, same, kept, List.map_id]

end NameUse

end TypeName

open EntityForge.TypeName

/-! ## Types of members -/

/-- The marker of a nullable type adds no name. -/
theorem ProjectedType.nameUses_printed {type : ProjectedType} (formed : IsWellFormed type.base) :
    nameUses type.printed.toList = type.base.nameUses.map NameUse.aliased := by
  have ends : EndsName (if type.isMarked then nullableMarker else "").toList := by
    cases type.isMarked with
    | true => exact .sign (by decide) (by decide) (by decide) []
    | false => exact .nil
  have unnamed : usesFrom [] (if type.isMarked then nullableMarker else "").toList = [] := by
    cases type.isMarked <;> decide
  rw [printed, Text.toList_append, nameUses, hasUses_print formed _ ends, unnamed,
    List.append_nil, nameUses_aliased]

/-- A member is declared with the names of the raw type of its property. -/
theorem Property.nameUses_declaredType {property : Property} {nullableMode : Bool}
    {member : Member} (run : property.member nullableMode = .ok member) :
    nameUses member.declaredType.toList =
      (nameUses property.systemType.name.toList).map NameUse.aliased := by
  obtain ⟨type, projected, rfl⟩ := Property.member_eq_ok_iff.mp run
  have spells := readChars_eq_ok_iff.mp (SystemType.read_of_project projected)
  have declared : (Member.scalar (Identifier.safeName property.propertyName) type
      property.columnName).declaredType = type.printed :=
    Text.append_empty
  rw [declared, ProjectedType.nameUses_printed spells.isWellFormed,
    (hasUses_of_spells spells).nameUses_eq]

theorem Property.strayUses_declaredType {property : Property} {nullableMode : Bool}
    {member : Member} (run : property.member nullableMode = .ok member) :
    strayUses member.declaredType = strayUses property.systemType.name := by
  rw [strayUses, Property.nameUses_declaredType run, NameUse.filter_isStray_map_aliased, strayUses]

/-- Whether a line declares the scalar for a property with the names of its raw type, aliased, and
with the same stray keywords. -/
def Property.KeepsNames (property : Property) (line : List Point) : Prop :=
  ∃ type ending,
    line = ("[" ++ attrAttribute ++ "] public " ++ type ++ " " ++
      Identifier.safeName property.propertyName ++ " \x7b get; set; \x7d" ++ ending).toList ∧
    nameUses type.toList = (nameUses property.systemType.name.toList).map NameUse.aliased ∧
    strayUses type = strayUses property.systemType.name

theorem Property.keepsNames_declaration {property : Property} {nullableMode : Bool}
    {member : Member} (run : property.member nullableMode = .ok member) :
    property.KeepsNames member.declaration.text.toList := by
  have names := Property.nameUses_declaredType run
  have strays := Property.strayUses_declaredType run
  obtain ⟨type, _, rfl⟩ := Property.member_eq_ok_iff.mp run
  have declared : (Member.scalar (Identifier.safeName property.propertyName) type
      property.columnName).declaredType = type.printed :=
    Text.append_empty
  rw [declared] at names strays
  rw [Member.text_declaration_scalar]
  exact ⟨type.printed, _, rfl, names, strays⟩

namespace Entity

/-- The scalar members of a written class have the types of the properties, with the same names but
for aliases, and with the same stray keywords.  So none of their types has one exactly if no type
name of the entity has, and the code declares them line by line with these types. -/
theorem strayUses_of_synthesize {entity : Entity} {options : GeneratorOptions} {code : Text}
    (run : entity.synthesize options = .ok code) :
    ∃ plan, entity.plan options.nullable = .ok plan ∧
      code = Layout.render options.indentSize
        (entity.fileLines options.fileScopedNamespace (entity.classLines options.document plan)) ∧
      List.Forall₂ (fun property member =>
          nameUses member.declaredType.toList =
            (nameUses property.systemType.name.toList).map NameUse.aliased ∧
          strayUses member.declaredType = strayUses property.systemType.name)
        entity.properties plan.properties ∧
      ((∀ member ∈ plan.properties, strayUses member.declaredType = []) ↔
        ∀ property ∈ entity.properties, strayUses property.systemType.name = []) ∧
      ∃ text : ClassText, text.IsReadFrom entity options.document code ∧
        List.Forall₂ (fun property member => property.KeepsNames member.declaration)
          entity.properties text.properties := by
  obtain ⟨_, plan, planned, shape⟩ := synthesize_eq_ok_iff.mp run
  obtain ⟨text, shows, readFrom⟩ := exists_text_of_plan planned options.fileScopedNamespace
    options.document options.indentSize
  rw [← shape] at readFrom
  obtain ⟨members, found, rfl⟩ := plan_eq_ok_iff.mp planned
  have paired := scalarMembers_eq_ok_iff.mp found
  have lines := forall₂_declaration shows.properties
    (paired.imp fun _ _ => Property.keepsNames_declaration)
  refine ⟨_, planned, shape, paired.imp fun property member here =>
    ⟨Property.nameUses_declaredType here, Property.strayUses_declaredType here⟩, ?_, text, readFrom,
    lines⟩
  have same : entity.properties.map (fun property => strayUses property.systemType.name) =
      members.map fun member => strayUses member.declaredType :=
    map_eq_of_forall₂ (List.forall₂_map_right_iff.mpr (paired.imp fun property member here =>
      (Property.strayUses_declaredType here).symm))
  calc (∀ member ∈ members, strayUses member.declaredType = [])
      ↔ ∀ uses ∈ members.map fun member => strayUses member.declaredType, uses = [] := by
        rw [List.forall_mem_map]
    _ ↔ ∀ uses ∈ entity.properties.map fun property => strayUses property.systemType.name,
          uses = [] := by
        rw [same]
    _ ↔ ∀ property ∈ entity.properties, strayUses property.systemType.name = [] := by
        rw [List.forall_mem_map]

/-- A property with the arguments of an event. -/
def placed : Property where
  propertyName := "Placed"
  systemType := ⟨"Shop.event.Args", none⟩

/-- An order that tells how it was placed. -/
def placedOrder : Entity where
  entityNamespace := "Shop"
  entityClass := "Order"
  properties := [{ propertyName := "Id", systemType := ⟨"int", none⟩ }, placed]

theorem strayUses_of_synthesize_placedOrder :
    ∃ code plan, placedOrder.synthesize {} = .ok code ∧ placedOrder.plan false = .ok plan ∧
      ¬∀ member ∈ plan.properties, strayUses member.declaredType = [] := by
  have valid : placedOrder.IsValid := by
    unfold IsValid
    decide
  obtain ⟨code, run⟩ := exists_synthesize_of_isQualifiedName {} valid (by decide)
  obtain ⟨plan, planned, _, _, same, _⟩ := strayUses_of_synthesize run
  refine ⟨code, plan, run, planned, ?_⟩
  rw [same]
  intro free
  have stray : strayUses placed.systemType.name ≠ [] := by decide
  exact stray (free placed (by simp [placedOrder]))

end Entity

end EntityForge
