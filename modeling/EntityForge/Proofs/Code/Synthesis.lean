import EntityForge.Code.ClassFile
import EntityForge.Proofs.TypeName.Alphabet

/-!
# When a class is written

A class file is written exactly for an entity without errors whose property types can all be
printed, and then it is the plan as the writer writes it.  Of the options only the text depends, not
whether there is one.
-/

namespace EntityForge

/-- Whether a type name is one that can be printed. -/
def SystemType.IsPrintable (type : SystemType) : Prop :=
  ∃ printed, TypeName.canonical type.name = .ok printed

theorem SystemType.isPrintable_iff {type : SystemType} :
    type.IsPrintable ↔ ∃ tree, TypeName.read type.name = .ok tree := by
  rw [IsPrintable, TypeName.canonical]
  constructor
  · rintro ⟨printed, run⟩
    obtain ⟨tree, read, _⟩ := map_eq_ok_iff.mp run
    exact ⟨tree, read⟩
  · rintro ⟨tree, read⟩
    exact ⟨tree.print, map_eq_ok_iff.mpr ⟨tree, read, rfl⟩⟩

/-- Dotted names are printed, whatever they are names of. -/
theorem SystemType.isPrintable_of_isQualifiedName {type : SystemType}
    (qualified : TypeName.isQualifiedName (Text.trim type.name.toList) = true) :
    type.IsPrintable :=
  isPrintable_iff.mpr ⟨_, TypeName.readChars_qualifiedName qualified⟩

/-- A projected type has the type expression that was read. -/
theorem SystemType.read_of_project {type : SystemType} {isNullable : Option Bool}
    {nullableMode : Bool} {projected : ProjectedType}
    (run : type.project isNullable nullableMode = .ok projected) :
    TypeName.read type.name = .ok projected.base := by
  rw [project] at run
  cases read : TypeName.read type.name with
  | error fault =>
      rw [read] at run
      cases run
  | ok tree =>
      rw [read] at run
      simp only [bind, Except.bind] at run
      split at run
      next =>
        cases run
        rfl
      next =>
        cases value : type.isValue with
        | error fault =>
            rw [value] at run
            cases run
        | ok isValue =>
            rw [value] at run
            cases run
            rfl

/-- Whether a type is printed never depends on more than its name. -/
theorem SystemType.exists_project_iff {type : SystemType} {isNullable : Option Bool}
    {nullableMode : Bool} :
    (∃ projected, type.project isNullable nullableMode = .ok projected) ↔ type.IsPrintable := by
  rw [isPrintable_iff]
  constructor
  · rintro ⟨projected, run⟩
    exact ⟨projected.base, read_of_project run⟩
  · rintro ⟨tree, read⟩
    have value : ∃ isValue, type.isValue = .ok isValue := by
      rw [isValue]
      split
      next declared _ => exact ⟨declared, rfl⟩
      next => exact ⟨_, by rw [TypeName.canonical, read]; rfl⟩
    obtain ⟨isValue, found⟩ := value
    rw [project, read]
    simp only [bind, Except.bind]
    split
    next => exact ⟨_, rfl⟩
    next =>
      rw [found]
      exact ⟨_, rfl⟩

theorem Property.member_eq_ok_iff {property : Property} {nullableMode : Bool} {member : Member} :
    property.member nullableMode = .ok member ↔
      ∃ type, property.systemType.project property.isNullable nullableMode = .ok type ∧
        member = .scalar (Identifier.safeName property.propertyName) type property.columnName := by
  rw [Property.member, map_eq_ok_iff]
  simp only [eq_comm]

theorem Property.exists_member_iff {property : Property} {nullableMode : Bool} :
    (∃ member, property.member nullableMode = .ok member) ↔ property.systemType.IsPrintable := by
  constructor
  · rintro ⟨member, run⟩
    obtain ⟨type, projected, _⟩ := Property.member_eq_ok_iff.mp run
    exact SystemType.exists_project_iff.mp ⟨type, projected⟩
  · intro printable
    obtain ⟨type, projected⟩ := SystemType.exists_project_iff.mpr printable
    exact ⟨_, Property.member_eq_ok_iff.mpr ⟨type, projected, rfl⟩⟩

namespace Entity

/-- Whether the validation of an entity finds no error. -/
def IsValid (entity : Entity) : Prop :=
  ∀ finding ∈ entity.findings, finding.isError = false

/-- The members of a planned class stand for the properties one by one. -/
theorem scalarMembers_eq_ok_iff {entity : Entity} {nullableMode : Bool} {members : List Member} :
    entity.scalarMembers nullableMode = .ok members ↔
      List.Forall₂ (fun property member => property.member nullableMode = .ok member)
        entity.properties members := by
  rw [scalarMembers, mapM_eq_ok_iff]
  simp only [mapError_eq_ok_iff]

theorem exists_scalarMembers_iff {entity : Entity} {nullableMode : Bool} :
    (∃ members, entity.scalarMembers nullableMode = .ok members) ↔
      ∀ property ∈ entity.properties, property.systemType.IsPrintable := by
  rw [scalarMembers, exists_mapM_eq_ok_iff]
  simp only [mapError_eq_ok_iff, Property.exists_member_iff]

theorem plan_eq_ok_iff {entity : Entity} {nullableMode : Bool} {plan : ClassPlan} :
    entity.plan nullableMode = .ok plan ↔
      ∃ properties, entity.scalarMembers nullableMode = .ok properties ∧
        plan = ⟨entity.collectionInitializers, properties, entity.navigationMembers nullableMode,
          identityMembers nullableMode⟩ := by
  rw [Entity.plan, map_eq_ok_iff]
  simp only [eq_comm]

theorem ensureValid_eq_ok_iff {entity : Entity} {findings : List Finding} :
    entity.ensureValid = .ok findings ↔ entity.IsValid ∧ findings = entity.findings := by
  rw [ensureValid, IsValid]
  split
  next found =>
    obtain ⟨finding, member, isError⟩ := List.any_eq_true.mp found
    constructor
    · intro impossible
      cases impossible
    · rintro ⟨valid, _⟩
      rw [valid finding member] at isError
      cases isError
  next notFound =>
    have valid : ∀ finding ∈ entity.findings, finding.isError = false := by
      intro finding member
      simpa using fun isError => notFound (List.any_eq_true.mpr ⟨finding, member, isError⟩)
    constructor
    · intro equal
      cases equal
      exact ⟨valid, rfl⟩
    · rintro ⟨_, rfl⟩
      rfl

/-- The text of a class is what the writer of its plan has written. -/
theorem synthesize_eq_ok_iff_text {entity : Entity} {options : GeneratorOptions}
    {code : Text} :
    entity.synthesize options = .ok code ↔
      entity.IsValid ∧ ∃ plan, entity.plan options.nullable = .ok plan ∧
        code = (Layout.Command.runAll { unit := options.indentSize }
          (entity.writeFile options.fileScopedNamespace
            (entity.writeClass options.document plan))).1.text := by
  rw [synthesize]
  cases valid : entity.ensureValid with
  | error error =>
      constructor
      · intro impossible
        cases impossible
      · rintro ⟨isValid, _⟩
        cases valid.symm.trans (ensureValid_eq_ok_iff.mpr ⟨isValid, rfl⟩)
  | ok findings =>
      have isValid := (ensureValid_eq_ok_iff.mp valid).1
      cases planned : entity.plan options.nullable with
      | error error =>
          constructor
          · intro impossible
            cases impossible
          · rintro ⟨_, plan, impossible, _⟩
            cases impossible
      | ok plan =>
          constructor
          · intro equal
            cases equal
            exact ⟨isValid, plan, rfl, rfl⟩
          · rintro ⟨_, other, same, rfl⟩
            cases same
            rfl

/-- A class is written exactly for a valid entity with printable types. -/
theorem exists_synthesize_iff {entity : Entity} {options : GeneratorOptions} :
    (∃ code, entity.synthesize options = .ok code) ↔
      entity.IsValid ∧ ∀ property ∈ entity.properties, property.systemType.IsPrintable := by
  constructor
  · rintro ⟨code, run⟩
    obtain ⟨valid, plan, planned, _⟩ := synthesize_eq_ok_iff_text.mp run
    obtain ⟨members, found, _⟩ := plan_eq_ok_iff.mp planned
    exact ⟨valid, exists_scalarMembers_iff.mp ⟨members, found⟩⟩
  · rintro ⟨valid, printable⟩
    obtain ⟨members, found⟩ := exists_scalarMembers_iff.mpr printable
    have planned := plan_eq_ok_iff.mpr ⟨members, found, rfl⟩
    exact ⟨_, synthesize_eq_ok_iff_text.mpr ⟨valid, _, planned, rfl⟩⟩

/-- Dotted type names are enough for a valid entity to be written. -/
theorem exists_synthesize_of_isQualifiedName {entity : Entity} (options : GeneratorOptions)
    (valid : entity.IsValid)
    (qualified : ∀ property ∈ entity.properties,
      TypeName.isQualifiedName (Text.trim property.systemType.name.toList) = true) :
    ∃ code, entity.synthesize options = .ok code := by
  rw [exists_synthesize_iff]
  refine ⟨valid, ?_⟩
  intro property listed
  exact SystemType.isPrintable_of_isQualifiedName (qualified property listed)

end Entity

end EntityForge
