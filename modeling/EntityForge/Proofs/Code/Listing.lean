import EntityForge.Proofs.Code.Initialization
import EntityForge.Proofs.Sorting
import EntityForge.Proofs.Text.Units
import Mathlib.Data.Prod.Lex

/-!
# The order of navigations

Relationships are listed by name and then by target, both in ordinal order, and those that have both
in common are listed as they are given.  The order is the same whether names are compared by code
units or by the bytes of these.  Since the sort is stable, the collections that the constructor
fills come in the order in which they are declared, although they are selected before they are
sorted.
-/

namespace EntityForge

open EntityForge.Identifier

/-! ## Stable order -/

namespace Relationship

/-- What a relationship is listed by: the code units of its name, then those of its target. -/
def listingKey (relationship : Relationship) : List Nat ×ₗ List Nat :=
  toLex (Text.units relationship.propertyName, Text.units relationship.primaryEntity.fullName)

/-- Whether a relationship is listed before another one when bytes are compared: those of the names,
and those of the targets where the names have the same. -/
def bytesBefore (left right : Relationship) : Bool :=
  Text.bigEndian left.propertyName < Text.bigEndian right.propertyName ||
    Text.bigEndian left.propertyName == Text.bigEndian right.propertyName &&
      Text.bigEndian left.primaryEntity.fullName < Text.bigEndian right.primaryEntity.fullName

theorem listedBefore_iff {left right : Relationship} :
    left.listedBefore right = true ↔ left.listingKey ≤ right.listingKey := by
  rw [listedBefore, listingKey, listingKey, Prod.Lex.toLex_le_toLex, Text.ordinalLe,
    Text.ordinalLe]
  by_cases same : Text.units left.propertyName = Text.units right.propertyName
  · simp [same, Text.unitsLe_iff]
  · simp [same, Text.unitsLe_iff, le_iff_lt_or_eq]

theorem bytesBefore_iff {left right : Relationship} :
    left.bytesBefore right = true ↔ left.listingKey < right.listingKey := by
  rw [listingKey, listingKey, Prod.Lex.toLex_lt_toLex]
  simp only [bytesBefore, Bool.or_eq_true, Bool.and_eq_true, decide_eq_true_eq, beq_iff_eq,
    Text.bigEndian_lt_iff, Text.bigEndian_eq_iff]

theorem isStableSort_sorted (relationships : List Relationship) :
    IsStableSort listingKey relationships (sorted relationships) := by
  rw [sorted]
  apply isStableSort_mergeSort
  intro left right
  exact listedBefore_iff

/-- The listed relationships are the stable sort of the given ones by the code units of name and
target, and no other list is.  Comparing bytes in place of units makes no difference, neither for
two texts nor for the list. -/
theorem isStableSort_iff (relationships : List Relationship) :
    (∀ listed, IsStableSort listingKey relationships listed ↔ listed = sorted relationships) ∧
    (relationships.mergeSort fun left right => !right.bytesBefore left) =
      sorted relationships ∧
    ∀ left right : Text,
      Text.bigEndian left < Text.bigEndian right ↔ Text.units left < Text.units right := by
  refine ⟨?_, ?_, fun left right => Text.bigEndian_lt_iff⟩
  · intro listed
    constructor
    · intro stable
      exact stable.unique (isStableSort_sorted relationships)
    · intro same
      rw [same]
      exact isStableSort_sorted relationships
  · rw [sorted]
    congr 1
    funext left right
    rw [Bool.eq_iff_iff, Bool.not_eq_true', ← Bool.not_eq_true, bytesBefore_iff, not_lt,
      listedBefore_iff]

/-- Relationships can be selected before they are sorted or afterwards. -/
theorem sorted_filter (keep : Relationship → Bool) (relationships : List Relationship) :
    sorted (relationships.filter keep) = (sorted relationships).filter keep := by
  have selected := (isStableSort_sorted relationships).filter keep
  exact (isStableSort_sorted (relationships.filter keep)).unique selected

end Relationship

/-! ## Collections -/

/-- Whether a member is the collection that an entry of the constructor fills: they have one name,
and the type of the member is a collection of the element type of the entry. -/
def Member.Collects (member : Member) (entry : Text × Text) : Prop :=
  member.name = entry.1 ∧ member.typeName = collection ++ "<" ++ entry.2 ++ ">"

/-- What the constructor fills for a relationship. -/
def Relationship.initializer (relationship : Relationship) : Text × Text :=
  (safeName relationship.propertyName, relationship.primaryEntity.qualifiedName)

/-- The member for a collection determines the entry by which the constructor fills it. -/
theorem Relationship.collects_iff {relationship : Relationship}
    (isMany : relationship.isCollection = true) {nullableMode : Bool} {entry : Text × Text} :
    (relationship.member nullableMode).Collects entry ↔ entry = relationship.initializer := by
  have typeName : (relationship.member nullableMode).typeName =
      collection ++ "<" ++ relationship.primaryEntity.qualifiedName ++ ">" := by
    rw [Relationship.member, isCollection_iff.mp isMany]
    rfl
  rw [Member.Collects, Relationship.name_member, typeName, initializer, Prod.ext_iff]
  constructor
  · intro found
    refine ⟨found.1.symm, ?_⟩
    have characters := congrArg Text.toList found.2
    simp only [Text.toList_append, List.append_cancel_right_eq,
      List.append_cancel_left_eq] at characters
    exact (Text.toList_inj.mp characters).symm
  · intro found
    rw [found.1, found.2]
    exact ⟨rfl, rfl⟩

namespace Entity

/-- The members for collections, in the order in which they are declared. -/
theorem filter_navigationMembers (entity : Entity) (nullableMode : Bool) :
    ((entity.navigationMembers nullableMode).filter fun member =>
        member.role == ("to_many" : Text)) =
      (Relationship.sorted (entity.relationships.filter Relationship.isCollection)).map
        (·.member nullableMode) := by
  rw [navigationMembers, List.filter_map, Relationship.sorted_filter]
  congr 1
  apply List.filter_congr
  intro relationship _
  rw [Function.comp_apply, Relationship.role_member]
  cases relationship.isCollection <;> rfl

/-- The constructor and the declarations agree: what the constructor fills, and nothing else, can be
read off the members for collections one by one, since selecting the collections before they are
sorted is as good as selecting them afterwards. -/
theorem collectionInitializers_iff (entity : Entity) (nullableMode : Bool) :
    (∀ entries, List.Forall₂ Member.Collects
        ((entity.navigationMembers nullableMode).filter fun member =>
          member.role == ("to_many" : Text))
        entries ↔ entries = entity.collectionInitializers) ∧
    Relationship.sorted (entity.relationships.filter Relationship.isCollection) =
      (Relationship.sorted entity.relationships).filter Relationship.isCollection := by
  refine ⟨?_, Relationship.sorted_filter _ _⟩
  intro entries
  rw [filter_navigationMembers, List.forall₂_map_left_iff]
  have collections : ∀ relationship ∈
      Relationship.sorted (entity.relationships.filter Relationship.isCollection),
      relationship.isCollection = true := by
    intro relationship member
    exact List.of_mem_filter ((List.mergeSort_perm _ _).subset member)
  have planned : entity.collectionInitializers =
      (Relationship.sorted (entity.relationships.filter Relationship.isCollection)).map
        Relationship.initializer := rfl
  rw [planned]
  generalize Relationship.sorted (entity.relationships.filter Relationship.isCollection) = listed
    at collections
  induction listed generalizing entries with
  | nil => rw [List.forall₂_nil_left_iff, List.map_nil]
  | cons relationship rest ih =>
      rw [List.forall_mem_cons] at collections
      rw [List.forall₂_cons_left_iff]
      simp only [Relationship.collects_iff collections.1, ih _ collections.2]
      simp

end Entity

end EntityForge
