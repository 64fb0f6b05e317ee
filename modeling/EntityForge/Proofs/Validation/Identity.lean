import EntityForge.Proofs.Code.MemberNames
import EntityForge.Proofs.Identifier.Qualified

/-!
# The warning of a missing identity

The adapters of the identity contract read the member `Id` of their class.  Whether a property
gives the class that member is decided by its legal name, while validation looks for the raw name.
The two differ for one spelling only, the name behind a verbatim sign.
-/

namespace EntityForge

open EntityForge.Identifier

/-! ## What the adapters read -/

/-- Whether an expression reads a member: it is the name of the member, or a call on it. -/
def ReadsMember (expression name : Text) : Prop :=
  IsLegal name ∧ (expression = name ∨ ∃ call, expression = name ++ "." ++ call)

/-- Whether an identity adapter of a class reads a member that the class does not declare for any
property. -/
def ClassPlan.ReadsUndeclared (plan : ClassPlan) : Prop :=
  ∃ adapter ∈ plan.identity, ∃ name, ReadsMember adapter.getter name ∧
    ∀ member ∈ plan.properties, member.name ≠ name

theorem isIdentifier_identityPropertyName : IsIdentifier identityPropertyName :=
  ⟨'I', [.scalar 'd'], rfl, by decide, List.forall_mem_singleton.mpr (by decide)⟩

theorem isLegal_identityPropertyName : IsLegal identityPropertyName :=
  .inl ⟨isIdentifier_identityPropertyName, by decide⟩

theorem dot_notMem_of_isLegal {name : Text} (legal : IsLegal name) : .scalar '.' ∉ name.toList := by
  rw [← safeName_of_isLegal legal]
  exact dot_notMem_safeName name

/-- A call tells which member it is on. -/
theorem readsMember_call_iff {owner name : Text} (legal : IsLegal owner) (call : Text) :
    ReadsMember (owner ++ "." ++ call) name ↔ name = owner := by
  constructor
  · rintro ⟨isName, same | ⟨other, same⟩⟩
    · refine absurd ?_ (dot_notMem_of_isLegal isName)
      rw [← same]
      simp [Text.toList_append]
    · have noDots : owner.toList.count (.scalar '.') = name.toList.count (.scalar '.') := by
        rw [List.count_eq_zero.mpr (dot_notMem_of_isLegal legal),
          List.count_eq_zero.mpr (dot_notMem_of_isLegal isName)]
      rw [← Text.toList_inj, Text.toList_append_dot, Text.toList_append_dot] at same
      rw [← Text.toList_inj]
      exact (Text.append_separator_inj same noDots).1.symm
  · rintro rfl
    exact ⟨legal, .inr ⟨call, rfl⟩⟩

/-- Without a call there is nothing but the name. -/
theorem readsMember_iff_of_noDot {expression name : Text}
    (noDot : .scalar '.' ∉ expression.toList) :
    ReadsMember expression name ↔ IsLegal name ∧ expression = name := by
  refine and_congr_right fun _ => or_iff_left ?_
  rintro ⟨call, rfl⟩
  apply noDot
  simp [Text.toList_append]

/-- The adapters read the identity property and no other member. -/
theorem readsMember_of_identityMembers {nullableMode : Bool} {adapter : Member} {name : Text}
    (member : adapter ∈ identityMembers nullableMode) (reads : ReadsMember adapter.getter name) :
    name = identityPropertyName := by
  simp only [identityMembers, List.mem_cons, List.not_mem_nil, or_false] at member
  rcases member with rfl | rfl | rfl
  · exact (readsMember_call_iff isLegal_identityPropertyName "ToString()").mp reads
  · replace reads : ReadsMember "null" name := reads
    obtain ⟨legal, rfl⟩ := (readsMember_iff_of_noDot (by decide)).mp reads
    exact absurd (safeName_of_isLegal legal) (by decide)
  · replace reads : ReadsMember identityPropertyName name := reads
    exact ((readsMember_iff_of_noDot (by decide)).mp reads).2.symm

/-- An adapter reads what is not declared exactly if no property gives the class its identity. -/
theorem readsUndeclared_iff {plan : ClassPlan} {nullableMode : Bool}
    (identity : plan.identity = identityMembers nullableMode) :
    plan.ReadsUndeclared ↔ ∀ member ∈ plan.properties, member.name ≠ identityPropertyName := by
  rw [ClassPlan.ReadsUndeclared, identity]
  constructor
  · rintro ⟨adapter, listed, name, reads, undeclared⟩
    exact readsMember_of_identityMembers listed reads ▸ undeclared
  · intro undeclared
    refine ⟨_, List.mem_cons_self, identityPropertyName, ?_, undeclared⟩
    exact (readsMember_call_iff isLegal_identityPropertyName "ToString()").mpr rfl

/-! ## What the check looks at -/

namespace Entity

/-- Whether validation warns of a missing identity. -/
def WarnsOfMissingId (entity : Entity) : Prop :=
  ∃ item ∈ (Diagnostics.ofFindings entity.identityFindings).warnings,
    item.code = "MISSING_ID_PROPERTY"

/-- Whether a property has a given raw name. -/
def HasProperty (entity : Entity) (name : Text) : Prop :=
  ∃ property ∈ entity.properties, property.propertyName = name

variable {entity : Entity}

theorem property?_eq_none_iff {name : Text} :
    entity.property? name = none ↔ ¬entity.HasProperty name := by
  simp [property?, HasProperty]

theorem baseClassMode_eq_noBase_iff :
    entity.baseClassMode = .noBase ↔ entity.baseClass? = none := by
  rw [baseClassMode]
  cases entity.baseClass? <;> simp

/-- Validation warns of an entity without a base class that has no property of the raw name. -/
theorem warnsOfMissingId_iff :
    entity.WarnsOfMissingId ↔
      entity.baseClassMode = .noBase ∧ ¬entity.HasProperty identityPropertyName := by
  rw [baseClassMode_eq_noBase_iff, ← property?_eq_none_iff]
  constructor
  · rintro ⟨item, warned, code⟩
    obtain ⟨finding, found, rfl⟩ := List.mem_map.mp (List.mem_filter.mp warned).1
    rw [identityFindings, List.mem_append] at found
    rcases found with key | missing
    · split at key
      next =>
        cases List.mem_singleton.mp key
        simp [Finding.diagnostic, Finding.code] at code
      next => cases key
    · split at missing
      next => cases missing
      next absent => simpa using absent
  · rintro ⟨noBase, noProperty⟩
    have missing : .missingIdProperty entity.entityClass ∈ entity.identityFindings := by
      rw [identityFindings, noBase, noProperty]
      exact List.mem_append_right _ List.mem_cons_self
    refine ⟨_, List.mem_filter.mpr ⟨List.mem_map_of_mem missing, rfl⟩, rfl⟩

variable {nullableMode : Bool} {plan : ClassPlan}

/-- The properties of two raw names give the class its identity. -/
theorem exists_identity_iff (run : entity.plan nullableMode = .ok plan) :
    (∃ member ∈ plan.properties, member.name = identityPropertyName) ↔
      entity.HasProperty identityPropertyName ∨
        entity.HasProperty ("@" ++ identityPropertyName) := by
  obtain ⟨properties, scalars, rfl⟩ := map_eq_ok_iff.mp run
  have spelled (property : Property) :
      safeName property.propertyName = identityPropertyName ↔
        property.propertyName = identityPropertyName ∨
          property.propertyName = "@" ++ identityPropertyName :=
    safeName_eq_iff isIdentifier_identityPropertyName (by decide) (by decide)
  rw [exists_scalar_iff scalars, HasProperty, HasProperty, ← exists_or]
  refine exists_congr fun property => ?_
  rw [spelled, and_or_left]

/-- Validation warns of exactly the entities whose class would read an identity that it does not
declare, apart from one spelling: a property behind a verbatim sign gives the class its identity,
and validation does not know it by its raw name. -/
theorem warnsOfMissingId_of_plan (nullableMode : Bool)
    (printable : ∀ property ∈ entity.properties, property.systemType.IsPrintable) :
    ∃ plan, entity.plan nullableMode = .ok plan ∧
      (entity.WarnsOfMissingId ↔
        entity.baseClassMode = .noBase ∧ ¬entity.HasProperty "Id") ∧
      (plan.ReadsUndeclared ↔ ∀ member ∈ plan.properties, member.name ≠ "Id") ∧
      (plan.ReadsUndeclared ↔ ¬entity.HasProperty "Id" ∧ ¬entity.HasProperty "@Id") ∧
      ((entity.WarnsOfMissingId ↔ entity.baseClassMode = .noBase ∧ plan.ReadsUndeclared) ↔
        entity.baseClassMode = .withBase ∨ entity.HasProperty "Id" ∨
          ¬entity.HasProperty "@Id") := by
  obtain ⟨properties, scalars⟩ := exists_scalarMembers_iff.mpr printable
  obtain ⟨plan, run, identity⟩ : ∃ plan, entity.plan nullableMode = .ok plan ∧
      plan.identity = identityMembers nullableMode :=
    ⟨_, plan_eq_ok_iff.mpr ⟨properties, scalars, rfl⟩, rfl⟩
  have reads := readsUndeclared_iff identity
  have declares : plan.ReadsUndeclared ↔ ¬entity.HasProperty "Id" ∧ ¬entity.HasProperty "@Id" := by
    rw [reads, ← not_or]
    refine Iff.trans ?_ (not_congr (exists_identity_iff run))
    push Not
    rfl
  refine ⟨plan, run, warnsOfMissingId_iff, reads, declares, ?_⟩
  rw [warnsOfMissingId_iff, declares]
  cases entity.baseClassMode with
  | withBase => simp
  | noBase =>
    -- Both sides are about the raw name alone, unless the verbatim one is there without it.
    simp only [true_and, reduceCtorEq, false_or]
    exact ⟨fun same => or_iff_not_imp_left.mpr fun absent => (same.mp absent).2,
      fun known => ⟨fun absent => ⟨absent, known.resolve_left absent⟩, And.left⟩⟩

/-- An order whose key is written with a verbatim sign. -/
def verbatimOrder : Entity where
  entityNamespace := "Shop"
  entityClass := "Order"
  properties := [{ propertyName := "@Id", systemType := ⟨"int", none⟩ }]

/-- Validation warns of the order, although its class declares the identity. -/
theorem warnsOfMissingId_of_plan_verbatimOrder :
    (∀ property ∈ verbatimOrder.properties, property.systemType.IsPrintable) ∧
      verbatimOrder.WarnsOfMissingId ∧
      ∃ plan, verbatimOrder.plan false = .ok plan ∧ ¬plan.ReadsUndeclared ∧
        ¬(verbatimOrder.WarnsOfMissingId ↔
          verbatimOrder.baseClassMode = .noBase ∧ plan.ReadsUndeclared) := by
  have printable : ∀ property ∈ verbatimOrder.properties, property.systemType.IsPrintable := by
    intro property listed
    cases List.mem_singleton.mp listed
    exact SystemType.isPrintable_of_isQualifiedName (by decide)
  have unknown : ¬verbatimOrder.HasProperty "Id" := by simp [HasProperty, verbatimOrder]
  have verbatim : verbatimOrder.HasProperty "@Id" := by simp [HasProperty, verbatimOrder]
  obtain ⟨plan, run, warns, -, reads, exact⟩ := warnsOfMissingId_of_plan false printable
  refine ⟨printable, warns.mpr ⟨by decide, unknown⟩, plan, run, fun reading => ?_, ?_⟩
  · exact (reads.mp reading).2 verbatim
  · rw [exact]
    rintro (base | known | absent)
    · exact absurd base (by decide)
    · exact unknown known
    · exact absent verbatim

end Entity

end EntityForge
