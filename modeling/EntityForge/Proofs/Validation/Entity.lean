import EntityForge.Proofs.Code.Synthesis
import Mathlib.Data.List.Nodup

/-!
# What makes an entity malformed

The checks of an entity find an error exactly if a name is missing or two names clash.  Member
names are compared as legal identifiers, properties and relationships together: the scan over the
members looks at each of them once, and yet no clash escapes it, whatever the order.
-/

namespace EntityForge

/-- Where no warning of its code is reported, there is no finding that would be one. -/
theorem Diagnostics.notMem_of_warnings {findings : List Finding} {finding : Finding}
    (silent : ∀ warning ∈ (Diagnostics.ofFindings findings).warnings,
      warning.code ≠ finding.code)
    (isWarning : finding.diagnostic.isWarning = true) : finding ∉ findings := by
  intro found
  have warned : finding.diagnostic ∈ (Diagnostics.ofFindings findings).warnings :=
    List.mem_filter.mpr ⟨List.mem_map_of_mem found, isWarning⟩
  exact silent finding.diagnostic warned rfl

namespace Entity

open EntityForge.Identifier
open EntityForge.Text (isBlankText)

/-- Why no class can be generated for an entity. -/
inductive IsMalformed (entity : Entity) : Prop where
  | blankClass : isBlankText entity.entityClass = true → IsMalformed entity
  | blankNamespace : isBlankText entity.entityNamespace = true → IsMalformed entity
  | blankMember {member : Text} :
      member ∈ entity.memberNames → isBlankText member = true → IsMalformed entity
  | sameMembers : ¬(entity.memberNames.map safeName).Nodup → IsMalformed entity
  | memberNamedLikeClass {member : Text} :
      member ∈ entity.memberNames → safeName member = entity.className → IsMalformed entity
  | blankTarget {relationship : Relationship} :
      relationship ∈ entity.relationships →
      isBlankText relationship.primaryEntity.entityClass = true → IsMalformed entity

/-- Whether findings are warnings only. -/
def AreWarnings (findings : List Finding) : Prop :=
  ∀ finding ∈ findings, finding.isError = false

@[simp] theorem areWarnings_nil : AreWarnings [] :=
  fun _ none => absurd none List.not_mem_nil

@[simp] theorem areWarnings_append {left right : List Finding} :
    AreWarnings (left ++ right) ↔ AreWarnings left ∧ AreWarnings right :=
  List.forall_mem_append

@[simp] theorem areWarnings_cons {finding : Finding} {rest : List Finding} :
    AreWarnings (finding :: rest) ↔ finding.isError = false ∧ AreWarnings rest :=
  List.forall_mem_cons

/-- A check with one finding. -/
theorem areWarnings_ite {condition : Prop} [Decidable condition] {finding : Finding} :
    AreWarnings (if condition then [finding] else []) ↔ condition → finding.isError = false := by
  split
  next holds => simp [holds]
  next fails => simp [fails]

/-! ## The single checks -/

theorem areWarnings_nameFindings {entity : Entity} :
    AreWarnings entity.nameFindings ↔
      isBlankText entity.entityClass = false ∧ isBlankText entity.entityNamespace = false := by
  have missing {name : Text} {finding : Finding} (isError : finding.isError = true) :
      (isBlankText name = true → finding.isError = false) ↔ isBlankText name = false := by
    simp [isError]
  have blankBase : (Finding.blankBaseClass entity.entityClass).isError = false := rfl
  simp only [nameFindings, areWarnings_append, areWarnings_ite, blankBase, implies_true, and_true]
  exact and_congr (missing rfl) (missing rfl)

/-- The scan finds nothing exactly if the members are named, have names of their own, which none
of the members before them has, and are not named like the class. -/
theorem areWarnings_memberFindingsFrom {entity : Entity} {seen : List (Text × Text)}
    {members : List Text} :
    AreWarnings (entity.memberFindingsFrom seen members) ↔
      (members.map safeName).Nodup ∧
      ∀ member ∈ members, isBlankText member = false ∧ seen.lookup (safeName member) = none ∧
        safeName member ≠ entity.className := by
  induction members generalizing seen with
  | nil => simp [memberFindingsFrom]
  | cons member rest ih =>
      have emptyIsError : (Finding.emptyMemberName entity.entityClass member).isError = true := rfl
      have clashIsError (first name : Text) :
          (Finding.duplicateMemberName entity.entityClass first member name).isError = true := rfl
      have likeClassIsError (name : Text) :
          (Finding.memberNamedLikeClass entity.entityClass member name).isError = true := rfl
      rw [memberFindingsFrom, List.map_cons, List.nodup_cons, List.forall_mem_cons]
      split
      next blank => simp [emptyIsError, blank]
      next named =>
        split
        next first found => simp [clashIsError, found]
        next fresh =>
          -- The members after this one see its name, so that they differ from it.
          have seenLater (name : Text) :
              ((safeName member, member) :: seen).lookup name = none ↔
                name ≠ safeName member ∧ seen.lookup name = none := by
            by_cases same : name = safeName member
            · simp [same]
            · rw [List.lookup_cons, beq_false_of_ne same]
              exact ⟨fun absent => ⟨same, absent⟩, And.right⟩
          rw [areWarnings_append, areWarnings_ite, ih]
          simp only [likeClassIsError, beq_iff_eq, Bool.not_eq_true] at named ⊢
          simp only [seenLater, List.mem_map, not_exists, not_and, named, fresh, className]
          grind

theorem areWarnings_memberFindings {entity : Entity} :
    AreWarnings entity.memberFindings ↔
      (entity.memberNames.map safeName).Nodup ∧
      ∀ member ∈ entity.memberNames,
        isBlankText member = false ∧ safeName member ≠ entity.className := by
  rw [memberFindings, areWarnings_memberFindingsFrom]
  simp only [List.lookup_nil, true_and]

theorem areWarnings_relationshipFindingsOf {entity : Entity} {relationship : Relationship} :
    AreWarnings (entity.relationshipFindingsOf relationship) ↔
      isBlankText relationship.primaryEntity.entityClass = false := by
  have missingIsError : (Finding.missingPrimaryEntity entity.entityClass
      relationship.propertyName).isError = true := rfl
  have links (names : List Text) : AreWarnings (names.map fun name =>
      Finding.unknownForeignKeyProperty entity.entityClass relationship.propertyName name) :=
    List.forall_mem_map.mpr fun _ _ => rfl
  rw [relationshipFindingsOf, areWarnings_append, areWarnings_ite, and_iff_left]
  · simp [missingIsError]
  · split
    next => exact areWarnings_nil
    next => exact links _

theorem areWarnings_relationshipFindings {entity : Entity} :
    AreWarnings entity.relationshipFindings ↔
      ∀ relationship ∈ entity.relationships,
        isBlankText relationship.primaryEntity.entityClass = false := by
  rw [relationshipFindings]
  simp only [← @areWarnings_relationshipFindingsOf entity, AreWarnings,
    List.forall_mem_flatMap]

/-- A missing identity is never an error. -/
theorem areWarnings_identityFindings (entity : Entity) : AreWarnings entity.identityFindings := by
  rw [identityFindings, areWarnings_append, areWarnings_ite]
  refine ⟨fun _ => rfl, ?_⟩
  split
  next => exact areWarnings_nil
  next => exact List.forall_mem_singleton.mpr rfl

/-! ## All checks -/

/-- No error is reported exactly if all findings are warnings. -/
theorem errors_validate_eq_nil_iff {entity : Entity} :
    entity.validate.errors = [] ↔ entity.IsValid := by
  rw [validate, Diagnostics.ofFindings, Diagnostics.errors, List.filter_eq_nil_iff,
    List.forall_mem_map]
  simp only [Bool.not_eq_true]
  exact Iff.rfl

/-- Validation finds an error exactly in malformed entities. -/
theorem isValid_iff_not_isMalformed {entity : Entity} :
    entity.IsValid ↔ ¬entity.IsMalformed := by
  have parts : entity.IsValid ↔ _ :=
    areWarnings_append.trans (and_congr_left' (areWarnings_append.trans
      (and_congr_left' areWarnings_append)))
  rw [parts, areWarnings_nameFindings, areWarnings_memberFindings,
    areWarnings_relationshipFindings]
  constructor
  · rintro ⟨⟨⟨⟨named, placed⟩, distinct, members⟩, targets⟩, _⟩ malformed
    cases malformed with
    | blankClass blank => cases named.symm.trans blank
    | blankNamespace blank => cases placed.symm.trans blank
    | blankMember member blank => cases (members _ member).1.symm.trans blank
    | sameMembers repeated => exact repeated distinct
    | memberNamedLikeClass member same => exact (members _ member).2 same
    | blankTarget member blank => cases (targets _ member).symm.trans blank
  · intro sound
    refine ⟨⟨⟨⟨?_, ?_⟩, ?_, ?_⟩, ?_⟩, entity.areWarnings_identityFindings⟩
    · exact Bool.eq_false_iff.mpr fun blank => sound (.blankClass blank)
    · exact Bool.eq_false_iff.mpr fun blank => sound (.blankNamespace blank)
    · exact not_not.mp fun repeated => sound (.sameMembers repeated)
    · intro member found
      exact ⟨Bool.eq_false_iff.mpr fun blank => sound (.blankMember found blank),
        fun same => sound (.memberNamedLikeClass found same)⟩
    · intro relationship found
      exact Bool.eq_false_iff.mpr fun blank => sound (.blankTarget found blank)

/-- The checks of a single entity do not look at other entities. -/
theorem unknownPrimaryEntity_notMem_findings (entity : Entity) (className name target : Text) :
    Finding.unknownPrimaryEntity className name target ∉ entity.findings := by
  have members (seen : List (Text × Text)) (names : List Text) :
      Finding.unknownPrimaryEntity className name target ∉
        entity.memberFindingsFrom seen names := by
    induction names generalizing seen with
    | nil => simp [memberFindingsFrom]
    | cons member rest ih =>
        rw [memberFindingsFrom]
        split
        next => simp [ih]
        next =>
          split
          next => simp [ih]
          next => simp [ih]
  simp [findings, nameFindings, memberFindings, members, relationshipFindings,
    relationshipFindingsOf, identityFindings]

/-- The members of a sound entity have different legal names. -/
theorem nodup_safeName_memberNames {entity : Entity} (sound : ¬entity.IsMalformed) :
    (entity.memberNames.map safeName).Nodup := by
  by_contra repeated
  exact sound (.sameMembers repeated)

end Entity

end EntityForge
