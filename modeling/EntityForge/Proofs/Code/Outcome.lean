import EntityForge.Proofs.Validation.Entity

/-!
# Why no class is written

The two errors of a synthesis divide the entities without a class between them: a malformed entity
is refused before its types are looked at, and otherwise the first property with a type that
cannot be printed is named.  No option has a say in it.
-/

namespace EntityForge

/-! ## Types that cannot be printed -/

namespace SystemType

variable {type : SystemType} {fault : TypeFault}

/-- A type is refused as a member's type for the reason for which its name is. -/
theorem project_eq_error_iff {isNullable : Option Bool} {nullableMode : Bool} :
    type.project isNullable nullableMode = .error fault ↔
      TypeName.canonical type.name = .error fault := by
  rw [TypeName.canonical, map_eq_error_iff]
  cases read : TypeName.read type.name with
  | error reason =>
      rw [project, read]
      simp [bind, Except.bind]
  | ok tree =>
      have found : ∃ projected, type.project isNullable nullableMode = .ok projected :=
        exists_project_iff.mpr (isPrintable_iff.mpr ⟨tree, read⟩)
      obtain ⟨projected, run⟩ := found
      simp [run]

end SystemType

theorem Property.member_eq_error_iff {property : Property} {nullableMode : Bool}
    {fault : TypeFault} :
    property.member nullableMode = .error fault ↔
      TypeName.canonical property.systemType.name = .error fault := by
  rw [Property.member, map_eq_error_iff, SystemType.project_eq_error_iff]

namespace Entity

variable {entity : Entity} {options : GeneratorOptions}

/-- Whether an error tells of the first property whose type cannot be printed. -/
def IsFirstRefusal (entity : Entity) (error : UnsupportedType) : Prop :=
  ∃ before property after fault,
    entity.properties = before ++ property :: after ∧
    (∀ earlier ∈ before, earlier.systemType.IsPrintable) ∧
    TypeName.canonical property.systemType.name = .error fault ∧
    error = ⟨fault, some entity.entityClass, some property.propertyName⟩

theorem scalarMembers_eq_error_iff {nullableMode : Bool} {error : UnsupportedType} :
    entity.scalarMembers nullableMode = .error error ↔ entity.IsFirstRefusal error := by
  rw [scalarMembers, mapM_eq_error_iff_first, IsFirstRefusal]
  simp only [mapError_eq_ok_iff, Property.exists_member_iff, mapError_eq_error_iff,
    Property.member_eq_error_iff, UnsupportedType.withContext, ← exists_and_left, @eq_comm _ error]

/-- An error about a type is one about a property, and there is one if a type is refused. -/
theorem exists_isFirstRefusal_iff :
    (∃ error, entity.IsFirstRefusal error) ↔
      ∃ property ∈ entity.properties, ¬property.systemType.IsPrintable := by
  simp only [← @scalarMembers_eq_error_iff entity false]
  have someRefused : (∃ property ∈ entity.properties, ¬property.systemType.IsPrintable) ↔
      ¬∃ members, entity.scalarMembers false = .ok members := by
    rw [exists_scalarMembers_iff]
    push Not
    exact Iff.rfl
  rw [someRefused]
  cases entity.scalarMembers false with
  | ok members => simp
  | error error => simp

/-! ## The errors of a synthesis -/

theorem exists_ensureValid_eq_error_iff :
    (∃ error, entity.ensureValid = .error error) ↔ entity.IsMalformed := by
  rw [← not_iff_not, ← isValid_iff_not_isMalformed]
  have accepted : (∃ findings, entity.ensureValid = .ok findings) ↔ entity.IsValid := by
    simp only [ensureValid_eq_ok_iff, exists_and_left, exists_eq, and_true]
  rw [← accepted]
  cases entity.ensureValid with
  | ok findings => simp
  | error error => simp

/-- Only a malformed entity fails its preconditions. -/
theorem exists_precondition_of_ensureValid {error : SynthesisError}
    (refused : entity.ensureValid = .error error) :
    ∃ name findings, error = .precondition name findings := by
  rw [ensureValid] at refused
  split at refused
  next =>
    cases refused
    exact ⟨_, _, rfl⟩
  next => cases refused

/-- A synthesis fails with the error of the preconditions or, where they hold, with that of the
first type.  The options are not asked. -/
theorem synthesize_eq_error_iff {error : SynthesisError} :
    entity.synthesize options = .error error ↔
      entity.ensureValid = .error error ∨
        ¬entity.IsMalformed ∧ ∃ refusal, entity.IsFirstRefusal refusal ∧
          error = .unsupportedType refusal := by
  rw [← exists_ensureValid_eq_error_iff, synthesize]
  cases valid : entity.ensureValid with
  | error fault => simp [bind, Except.bind]
  | ok findings =>
      simp only [← @scalarMembers_eq_error_iff entity options.nullable]
      cases planned : entity.scalarMembers options.nullable with
      | error refusal =>
          simp [Entity.plan, planned, bind, Except.bind, Except.map, Except.mapError, eq_comm]
      | ok members =>
          simp [Entity.plan, planned, bind, Except.bind, Except.map, Except.mapError, pure,
            Except.pure]

theorem exists_synthesize_eq_precondition_iff :
    (∃ name findings, entity.synthesize options = .error (.precondition name findings)) ↔
      entity.IsMalformed := by
  simp only [synthesize_eq_error_iff, reduceCtorEq, and_false, exists_false, or_false]
  rw [← exists_ensureValid_eq_error_iff]
  constructor
  · rintro ⟨name, findings, refused⟩
    exact ⟨_, refused⟩
  · rintro ⟨error, refused⟩
    obtain ⟨name, findings, rfl⟩ := exists_precondition_of_ensureValid refused
    exact ⟨name, findings, refused⟩

theorem synthesize_eq_unsupportedType_iff {error : UnsupportedType} :
    entity.synthesize options = .error (.unsupportedType error) ↔
      ¬entity.IsMalformed ∧ entity.IsFirstRefusal error := by
  rw [synthesize_eq_error_iff]
  constructor
  · rintro (refused | ⟨sound, refusal, first, same⟩)
    · obtain ⟨name, findings, impossible⟩ := exists_precondition_of_ensureValid refused
      cases impossible
    · cases same
      exact ⟨sound, first⟩
  · rintro ⟨sound, first⟩
    exact .inr ⟨sound, error, first, rfl⟩

/-- A class is refused before its types are looked at exactly if the entity is malformed, and
otherwise for the first type that cannot be printed, if there is one.  In all other cases it is
written, and no option changes anything about it. -/
theorem synthesize_outcome (entity : Entity) (options : GeneratorOptions) :
    ((∃ name findings, entity.synthesize options = .error (.precondition name findings)) ↔
      entity.IsMalformed) ∧
    ((∃ error, entity.synthesize options = .error (.unsupportedType error)) ↔
      ¬entity.IsMalformed ∧ ∃ property ∈ entity.properties, ¬property.systemType.IsPrintable) ∧
    (∀ error, entity.synthesize options = .error (.unsupportedType error) ↔
      ¬entity.IsMalformed ∧ entity.IsFirstRefusal error) ∧
    ((∃ code, entity.synthesize options = .ok code) ↔
      ¬entity.IsMalformed ∧ ∀ property ∈ entity.properties, property.systemType.IsPrintable) ∧
    ∀ other : GeneratorOptions, (entity.synthesize options).map (fun _ => ()) =
      (entity.synthesize other).map fun _ => () := by
  refine ⟨exists_synthesize_eq_precondition_iff, ?_, fun _ => synthesize_eq_unsupportedType_iff,
    ?_, ?_⟩
  · simp only [synthesize_eq_unsupportedType_iff, exists_and_left, exists_isFirstRefusal_iff]
  · rw [exists_synthesize_iff, isValid_iff_not_isMalformed]
  · intro other
    have sameError (error : SynthesisError) :
        entity.synthesize options = .error error ↔ entity.synthesize other = .error error := by
      rw [synthesize_eq_error_iff, synthesize_eq_error_iff]
    cases here : entity.synthesize options with
    | error error => rw [(sameError error).mp here]
    | ok code =>
        cases there : entity.synthesize other with
        | error error => cases here.symm.trans ((sameError error).mpr there)
        | ok otherCode => rfl

end Entity

end EntityForge
