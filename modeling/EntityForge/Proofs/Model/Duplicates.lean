import EntityForge.Proofs.Model.Reader
import EntityForge.Proofs.Text.Lines
import Mathlib.Data.List.NodupEquivFin

/-!
# Entities that are defined twice

A model is refused if two of its entities have one dotted name.  That is so for entities of one
namespace and one class, and also where a part of the dotted name is the end of the namespace for
one entity and the beginning of the class for the other.
-/

namespace EntityForge

open EntityForge.Schema
open EntityForge.Schema.Checked

/-! ## Values at two positions -/

section Positions

variable {α β : Type} {relates other : α → α → Prop} {values : List α}

/-- Whether the values at two positions of a list are related. -/
def HasTwo (relates : α → α → Prop) (values : List α) : Prop :=
  ∃ (left right : Nat) (first second : α), left ≠ right ∧
    values[left]? = some first ∧ values[right]? = some second ∧ relates first second

theorem hasTwo_congr (same : ∀ first ∈ values, ∀ second ∈ values,
    (relates first second ↔ other first second)) :
    HasTwo relates values ↔ HasTwo other values := by
  refine exists₄_congr fun left right first second => and_congr_right fun _ =>
    and_congr_right fun here => and_congr_right fun there => ?_
  exact same first (List.mem_of_getElem? here) second (List.mem_of_getElem? there)

theorem hasTwo_or_iff :
    HasTwo (fun first second => relates first second ∨ other first second) values ↔
      HasTwo relates values ∨ HasTwo other values := by
  simp only [HasTwo, and_or_left, exists_or]

theorem hasTwo_swap_iff :
    HasTwo (fun first second => relates second first) values ↔ HasTwo relates values := by
  constructor
  · rintro ⟨left, right, first, second, different, here, there, holds⟩
    exact ⟨right, left, second, first, different.symm, there, here, holds⟩
  · rintro ⟨left, right, first, second, different, here, there, holds⟩
    exact ⟨right, left, second, first, different.symm, there, here, holds⟩

theorem hasTwo_map_iff {relates : β → β → Prop} {image : α → β} :
    HasTwo relates (values.map image) ↔
      HasTwo (fun first second => relates (image first) (image second)) values := by
  constructor
  · rintro ⟨left, right, first, second, different, here, there, holds⟩
    rw [List.getElem?_map, Option.map_eq_some_iff] at here there
    obtain ⟨first, here, rfl⟩ := here
    obtain ⟨second, there, rfl⟩ := there
    exact ⟨left, right, first, second, different, here, there, holds⟩
  · rintro ⟨left, right, first, second, different, here, there, holds⟩
    refine ⟨left, right, image first, image second, different, ?_, ?_, holds⟩
    · rw [List.getElem?_map, here, Option.map_some]
    · rw [List.getElem?_map, there, Option.map_some]

theorem duplicate_iff_hasTwo {value : α} :
    List.Duplicate value values ↔
      HasTwo (fun first second => first = value ∧ second = value) values := by
  rw [List.duplicate_iff_exists_distinct_get]
  constructor
  · rintro ⟨left, right, before, here, there⟩
    refine ⟨left, right, value, value, Nat.ne_of_lt before, ?_, ?_, rfl, rfl⟩
    · rw [here, List.get_eq_getElem, List.getElem?_eq_getElem]
    · rw [there, List.get_eq_getElem, List.getElem?_eq_getElem]
  · rintro ⟨left, right, _, _, different, here, there, rfl, rfl⟩
    obtain ⟨inLeft, here⟩ := List.getElem?_eq_some_iff.mp here
    obtain ⟨inRight, there⟩ := List.getElem?_eq_some_iff.mp there
    rcases Nat.lt_or_gt_of_ne different with before | after
    · exact ⟨⟨left, inLeft⟩, ⟨right, inRight⟩, before, here.symm, there.symm⟩
    · exact ⟨⟨right, inRight⟩, ⟨left, inLeft⟩, after, there.symm, here.symm⟩

/-- The images of a list are all different unless two positions have one image. -/
theorem hasTwo_eq_iff {image : α → β} :
    HasTwo (fun first second => image first = image second) values ↔
      ¬(values.map image).Nodup := by
  rw [← List.exists_duplicate_iff_not_nodup]
  simp only [duplicate_iff_hasTwo]
  constructor
  · rintro ⟨left, right, first, second, different, here, there, same⟩
    refine ⟨image first, hasTwo_map_iff.mpr ?_⟩
    exact ⟨left, right, first, second, different, here, there, rfl, same.symm⟩
  · rintro ⟨value, twice⟩
    obtain ⟨left, right, first, second, different, here, there, one, two⟩ :=
      hasTwo_map_iff.mp twice
    exact ⟨left, right, first, second, different, here, there, one.trans two.symm⟩

end Positions

/-! ## Names that are told as duplicates -/

theorem nodup_eraseDups (names : List Text) : names.eraseDups.Nodup := by
  cases names with
  | nil => exact List.nodup_nil
  | cons name rest =>
      rw [List.eraseDups_cons, List.nodup_cons, List.mem_eraseDups]
      refine ⟨?_, nodup_eraseDups _⟩
      simp
termination_by names.length
decreasing_by exact Nat.lt_succ_of_le (List.length_filter_le _ _)

namespace EntityModel

variable {names : List Text} {name : Text}

theorem mem_duplicates_iff : name ∈ duplicates names ↔ List.Duplicate name names := by
  rw [duplicates, List.mem_mergeSort, List.mem_filter, List.mem_eraseDups, decide_eq_true_iff,
    List.duplicate_iff_two_le_count]
  refine and_iff_right_of_imp fun twice => ?_
  exact List.count_pos_iff.mp (Nat.zero_lt_of_lt twice)

/-- Every name is told once, and the names are told in order. -/
theorem pairwise_duplicates (names : List Text) : (duplicates names).Pairwise (· < ·) := by
  have sorted : (duplicates names).Pairwise fun left right => decide (left ≤ right) = true := by
    apply List.pairwise_mergeSort
    · simp only [decide_eq_true_iff]
      exact fun _ _ _ => Text.le_trans
    · simp only [Bool.or_eq_true, decide_eq_true_iff]
      exact Text.le_total
  have distinct : (duplicates names).Nodup :=
    (List.mergeSort_perm _ _).nodup_iff.mpr ((nodup_eraseDups names).filter _)
  refine sorted.imp₂ ?_ distinct
  intro left right le different
  rw [← Text.not_le]
  exact fun again => different (Text.le_antisymm (of_decide_eq_true le) again)

end EntityModel

/-! ## Entities of one dotted name -/

namespace Entity

/-- Whether two entities have the same namespace and the same class. -/
def SameDefinition (left right : Entity) : Prop :=
  left.entityNamespace = right.entityNamespace ∧ left.entityClass = right.entityClass

theorem sameDefinition_iff {left right : Entity} :
    left.SameDefinition right ↔ left.reference = right.reference := by
  rw [SameDefinition, reference, reference, EntityReference.mk.injEq]

/-- Whether the namespace of the second entity is longer by a part that begins the class of the
first one. -/
def Shifts (left right : Entity) : Prop :=
  ∃ part, right.entityNamespace = left.entityNamespace ++ "." ++ part ∧
    left.entityClass = part ++ "." ++ right.entityClass

theorem dottedName_eq_iff {left right : Entity} :
    left.dottedName = right.dottedName ↔
      left.SameDefinition right ∨ left.Shifts right ∨ right.Shifts left :=
  Text.append_dot_eq_iff

/-- Nothing shifts into a class without dots. -/
theorem not_shifts {left : Entity} (noDot : .scalar '.' ∉ left.entityClass.toList)
    (right : Entity) : ¬left.Shifts right := by
  rintro ⟨part, _, className⟩
  apply noDot
  rw [className]
  simp [Text.toList_append]

end Entity

/-- Two entities have one dotted name if they are alike, or if one shifts into the other. -/
theorem hasTwo_dottedName_iff {entities : List Entity} :
    HasTwo (fun left right => left.dottedName = right.dottedName) entities ↔
      HasTwo Entity.SameDefinition entities ∨ HasTwo Entity.Shifts entities := by
  have swapped : HasTwo (fun left right => Entity.Shifts right left) entities ↔
      HasTwo Entity.Shifts entities := hasTwo_swap_iff
  rw [hasTwo_congr fun _ _ _ _ => Entity.dottedName_eq_iff, hasTwo_or_iff, hasTwo_or_iff, swapped,
    or_self]

namespace EntityModel

variable {entities : List Entity} {items : List Data}

theorem ofEntities_eq_issue_iff {kind : Kind} :
    ofEntities entities = .issue kind ↔
      ¬(entities.map Entity.dottedName).Nodup ∧
        kind = .duplicateEntities (duplicates (entities.map Entity.dottedName)) := by
  rw [ofEntities]
  split
  next distinct => simp [Checked.issue, distinct]
  next clash => simp [Checked.issue, clash, eq_comm]

/-- A list of valid entities is the list of a model, or the dotted names that two of its positions
share are told in order.  That happens for two entities of one namespace and one class, and for two
of which one shifts into the other; classes without dots leave the first reason only. -/
theorem duplicates_of_read
    (valid : List.Forall₂ (fun item entity => Entity.read item = .valid entity) items entities) :
    (match EntityModel.read (Data.object [("entities", .list items)]) with
      | .valid model => model.entities = entities
      | .invalid issues => ∃ names, issues = [⟨.duplicateEntities names, []⟩] ∧
          names.Pairwise (· < ·) ∧ ∀ name, name ∈ names ↔
            HasTwo (fun left right => left.dottedName = name ∧ right.dottedName = name)
              entities) ∧
    ((∃ names, EntityModel.read (Data.object [("entities", .list items)]) =
        .issue (.duplicateEntities names)) ↔
      HasTwo Entity.SameDefinition entities ∨ HasTwo Entity.Shifts entities) ∧
    ((∀ entity ∈ entities, .scalar '.' ∉ entity.entityClass.toList) →
      ((∃ names, EntityModel.read (Data.object [("entities", .list items)]) =
          .issue (.duplicateEntities names)) ↔
        HasTwo Entity.SameDefinition entities)) := by
  have told : (∃ names, ofEntities entities = .issue (.duplicateEntities names)) ↔
      HasTwo Entity.SameDefinition entities ∨ HasTwo Entity.Shifts entities := by
    simp only [ofEntities_eq_issue_iff, Kind.duplicateEntities.injEq, exists_and_left,
      exists_eq, and_true]
    rw [← hasTwo_dottedName_iff, hasTwo_eq_iff]
  rw [read_object_eq valid]
  refine ⟨?_, told, ?_⟩
  · by_cases distinct : (entities.map Entity.dottedName).Nodup
    · rw [ofEntities, dif_pos distinct]
    · rw [ofEntities, dif_neg distinct]
      refine ⟨_, rfl, pairwise_duplicates _, fun name => ?_⟩
      rw [mem_duplicates_iff, duplicate_iff_hasTwo, hasTwo_map_iff]
  · intro plain
    rw [told]
    refine or_iff_left ?_
    rintro ⟨_, _, first, second, _, here, _, shifts⟩
    exact Entity.not_shifts (plain first (List.mem_of_getElem? here)) second shifts

/-- Two orders of one dotted name, the second one of them in a namespace that is named like the
first part of the class of the first one. -/
def shiftedOrders : List Entity :=
  [ { entityNamespace := "Acme", entityClass := "Shop.Order" },
    { entityNamespace := "Acme.Shop", entityClass := "Order" } ]

/-- The data that the two orders are read from. -/
def shiftedItems : List Data :=
  [ Data.object [("entity_namespace", .text "Acme"), ("entity_class", .text "Shop.Order")],
    Data.object [("entity_namespace", .text "Acme.Shop"), ("entity_class", .text "Order")] ]

/-- No entity is defined twice, and still there is no model. -/
theorem duplicates_of_read_shiftedOrders :
    List.Forall₂ (fun item entity => Entity.read item = .valid entity) shiftedItems shiftedOrders ∧
      ¬HasTwo Entity.SameDefinition shiftedOrders ∧
      ∃ names, EntityModel.read (Data.object [("entities", .list shiftedItems)]) =
        .issue (.duplicateEntities names) := by
  have valid : List.Forall₂ (fun item entity => Entity.read item = .valid entity)
      shiftedItems shiftedOrders := .cons rfl (.cons rfl .nil)
  have different : ¬HasTwo Entity.SameDefinition shiftedOrders := by
    have definitions : (shiftedOrders.map Entity.reference).Nodup := by decide
    rw [hasTwo_congr fun _ _ _ _ => Entity.sameDefinition_iff, hasTwo_eq_iff, not_not]
    exact definitions
  have shifts : HasTwo Entity.Shifts shiftedOrders :=
    ⟨0, 1, _, _, Nat.zero_ne_one, rfl, rfl, "Shop", by decide, by decide⟩
  exact ⟨valid, different, (duplicates_of_read valid).2.1.mpr (.inr shifts)⟩

end EntityModel

end EntityForge
