import EntityForge.Proofs.Identifier.Legal
import EntityForge.Proofs.Validation.Entity

/-!
# Names of generated members

Validation looks at the raw names in the order in which they are listed, while the members of the
class are planned apart from it and its navigations are sorted.  Both have the same legal names, so
that no two members of a class without errors are called alike, and none like the class.
-/

namespace EntityForge

open EntityForge.Identifier

@[simp] theorem Relationship.name_member (relationship : Relationship) (nullableMode : Bool) :
    (relationship.member nullableMode).name = safeName relationship.propertyName := by
  rw [Relationship.member]
  cases relationship.cardinality <;> rfl

theorem Property.name_member {property : Property} {nullableMode : Bool} {member : Member}
    (run : property.member nullableMode = .ok member) :
    member.name = safeName property.propertyName := by
  obtain ⟨type, _, rfl⟩ := Property.member_eq_ok_iff.mp run
  rfl

namespace Entity

variable {entity : Entity} {nullableMode : Bool} {properties : List Member}

theorem map_name_scalarMembers (run : entity.scalarMembers nullableMode = .ok properties) :
    properties.map Member.name =
      entity.properties.map fun property => safeName property.propertyName := by
  have paired := scalarMembers_eq_ok_iff.mp run
  clear run
  generalize entity.properties = raw at paired ⊢
  induction paired with
  | nil => rfl
  | cons here _ ih => rw [List.map_cons, List.map_cons, ih, Property.name_member here]

/-- The scalars of a class are called by the legal names of its properties. -/
theorem exists_scalar_iff (run : entity.scalarMembers nullableMode = .ok properties)
    {name : Text} :
    (∃ scalar ∈ properties, scalar.name = name) ↔
      ∃ property ∈ entity.properties, safeName property.propertyName = name := by
  rw [← List.mem_map, map_name_scalarMembers run, List.mem_map]

theorem map_name_navigationMembers (entity : Entity) (nullableMode : Bool) :
    ((entity.navigationMembers nullableMode).map Member.name).Perm
      (entity.relationships.map fun relationship => safeName relationship.propertyName) := by
  rw [navigationMembers, List.map_map]
  simp only [Function.comp_def, Relationship.name_member]
  exact (List.mergeSort_perm _ _).map _

/-- The members of a class have the legal names of the raw members, up to the order. -/
theorem map_name_members (run : entity.scalarMembers nullableMode = .ok properties) :
    ((properties ++ entity.navigationMembers nullableMode).map Member.name).Perm
      (entity.memberNames.map safeName) := by
  rw [List.map_append, map_name_scalarMembers run, memberNames, List.map_append, List.map_map,
    List.map_map]
  exact (entity.map_name_navigationMembers nullableMode).append_left _

/-- The members of a valid entity have the legal names of its raw members.  These differ from each
other and from that of the class also where the verbatim sign does not count. -/
theorem legal_distinct_members {entity : Entity} (nullableMode : Bool)
    (noErrors : entity.validate.errors = [])
    (printable : ∀ property ∈ entity.properties, property.systemType.IsPrintable) :
    ∃ properties, entity.scalarMembers nullableMode = .ok properties ∧
      let names := (properties ++ entity.navigationMembers nullableMode).map Member.name
      names.Perm (entity.memberNames.map safeName) ∧
      (∀ name ∈ names, IsLegal name) ∧
      (names.map withoutVerbatim).Nodup ∧
      ∀ name ∈ names, withoutVerbatim name ≠ withoutVerbatim entity.className := by
  obtain ⟨properties, run⟩ := exists_scalarMembers_iff.mpr printable
  have same := map_name_members run
  have sound := isValid_iff_not_isMalformed.mp (errors_validate_eq_nil_iff.mp noErrors)
  refine ⟨properties, run, same, ?_, ?_, ?_⟩
  · intro name member
    obtain ⟨raw, _, rfl⟩ := List.mem_map.mp (same.mem_iff.mp member)
    exact isLegal_safeName raw
  · rw [(same.map withoutVerbatim).nodup_iff, nodup_withoutVerbatim_iff]
    exact not_not.mp fun repeated => sound (.sameMembers repeated)
  · intro name member
    obtain ⟨raw, listed, rfl⟩ := List.mem_map.mp (same.mem_iff.mp member)
    intro alike
    exact sound (.memberNamedLikeClass listed (withoutVerbatim_safeName_inj.mp alike))

/-- A class named by a keyword, with members named by a keyword and by no identifier. -/
def keywordClass : Entity where
  entityNamespace := "Shop"
  entityClass := "class"
  properties :=
    [{ propertyName := "Id", systemType := ⟨"int", none⟩ },
      { propertyName := "@event", systemType := ⟨"System.String", none⟩ }]
  relationships :=
    [{ propertyName := "1st item", primaryEntity := ⟨"", "Item"⟩, cardinality := .many }]

theorem legal_distinct_members_keywordClass :
    ∃ properties, keywordClass.scalarMembers true = .ok properties ∧
      let names := (properties ++ keywordClass.navigationMembers true).map Member.name
      names.Perm ["Id", "@event", "_1st_item"] ∧ (∀ name ∈ names, IsLegal name) ∧
        (names.map withoutVerbatim).Nodup ∧ ∀ name ∈ names, withoutVerbatim name ≠ "class" := by
  have valid : keywordClass.IsValid := by
    unfold IsValid
    decide
  have printable : ∀ property ∈ keywordClass.properties, property.systemType.IsPrintable := by
    refine List.forall_mem_cons.mpr ⟨?_, List.forall_mem_singleton.mpr ?_⟩
    · exact SystemType.isPrintable_of_isQualifiedName (by decide)
    · exact SystemType.isPrintable_of_isQualifiedName (by decide)
  have className : withoutVerbatim keywordClass.className = "class" := by decide
  have names : keywordClass.memberNames.map safeName =
      ([ "Id", "@event", "_1st_item" ] : List Text) := by decide
  rw [← className, ← names]
  exact legal_distinct_members true (errors_validate_eq_nil_iff.mpr valid) printable

end Entity

end EntityForge
