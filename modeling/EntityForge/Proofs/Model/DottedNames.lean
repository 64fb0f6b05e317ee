import EntityForge.Proofs.Model.Editing
import EntityForge.Proofs.Text.Lines

/-!
# Dotted names of references

A reference is written as one dotted name and is read from it again.  The writer leaves out the dot
of an empty namespace, while the reader divides at the last dot, so that the two undo each other
unless a class has a dot in it, or a name has a dot in front and no other.
-/

namespace EntityForge

open EntityForge.Schema
open EntityForge.Schema.Checked
open EntityForge.Text

namespace EntityReference

theorem ofDottedName_of_notMem {name : Text} (bare : .scalar '.' ∉ name.toList) :
    ofDottedName name = ⟨"", name⟩ := by
  rw [ofDottedName, splitLast_of_notMem bare]
  simp

/-- The class is what follows the last dot. -/
theorem ofDottedName_append {name : Text} (bare : .scalar '.' ∉ name.toList) (qualifier : Text) :
    ofDottedName (qualifier ++ "." ++ name) = ⟨qualifier, name⟩ := by
  rw [ofDottedName, toList_append_dot, splitLast_append bare]

theorem exists_append_of_mem {name : Text} (dotted : .scalar '.' ∈ name.toList) :
    ∃ qualifier rest, name = qualifier ++ "." ++ rest ∧ .scalar '.' ∉ rest.toList := by
  obtain ⟨before, after, shape, absent⟩ := Text.exists_append_of_mem dotted
  refine ⟨Text.ofList before, Text.ofList after, ?_, by simpa using absent⟩
  rw [← Text.toList_inj, shape]
  simp

theorem dot_notMem_entityClass (name : Text) :
    .scalar '.' ∉ (ofDottedName name).entityClass.toList := by
  by_cases dotted : .scalar '.' ∈ name.toList
  · obtain ⟨qualifier, rest, rfl, bare⟩ := exists_append_of_mem dotted
    rw [ofDottedName_append bare]
    exact bare
  · rw [ofDottedName_of_notMem dotted]
    exact dotted

/-! ## Written and read -/

/-- A reference is read from its dotted name exactly if its class has no dots. -/
theorem ofDottedName_fullName_iff {reference : EntityReference} :
    ofDottedName reference.fullName = reference ↔ .scalar '.' ∉ reference.entityClass.toList := by
  constructor
  · intro same
    rw [← same]
    exact dot_notMem_entityClass _
  · intro bare
    rw [fullName]
    split
    next empty =>
      rw [ofDottedName_of_notMem bare, ← Text.isEmpty_iff.mp empty]
    next => exact ofDottedName_append bare reference.entityNamespace

/-- A single dot in front is lost. -/
theorem fullName_ofDottedName_dot {name : Text} (bare : .scalar '.' ∉ name.toList) :
    (ofDottedName ("." ++ name)).fullName = name := by
  have divided := ofDottedName_append bare ""
  rw [Text.empty_append] at divided
  rw [divided]
  rfl

/-- A name is written again as it was read, unless it has one dot and that is in front. -/
theorem fullName_ofDottedName_iff {text : Text} :
    (ofDottedName text).fullName = text ↔
      ∀ name, .scalar '.' ∉ name.toList → text ≠ "." ++ name := by
  constructor
  · rintro same name bare rfl
    rw [fullName_ofDottedName_dot bare] at same
    -- A name that begins with a dot is no name without dots.
    have dotted : .scalar '.' ∈ ("." ++ name).toList := by simp
    exact bare (same.symm ▸ dotted)
  · intro inside
    by_cases dotted : .scalar '.' ∈ text.toList
    · obtain ⟨qualifier, name, rfl, bare⟩ := exists_append_of_mem dotted
      have filled : ¬qualifier.isEmpty = true := by
        intro empty
        apply inside name bare
        rw [Text.isEmpty_iff.mp empty, Text.empty_append]
      rw [ofDottedName_append bare, fullName, if_neg filled]
    · rw [ofDottedName_of_notMem dotted]
      rfl

/-! ## Targets of relationships -/

/-- A dotted name is expanded to a reference that can be read. -/
theorem read_expand_text (name : Text) :
    EntityReference.read (expand (.text name)) = .valid (ofDottedName name) :=
  rfl

/-- Whether a reference is the target of every relationship that is given some data for it. -/
structure IsGivenBy (reference : EntityReference) (target : Data) : Prop where
  /-- A relationship with this target that is read at all points at the reference. -/
  read_eq {entries : List (Data × Data)} {relationship : Relationship} :
    Data.lookup? "primary_entity" entries = some target →
    Relationship.read (.map entries) = .valid relationship → relationship.primaryEntity = reference
  /-- The target does not keep a relationship from being read. -/
  accepted (relationship : Relationship) :
    Relationship.read (.object (relationship.fields target)) =
      .valid { relationship with primaryEntity := reference }
  /-- The target may also be assigned later. -/
  assigned (relationship : Relationship) :
    relationship.set "primary_entity" target = .ok { relationship with primaryEntity := reference }

/-- The data of a target is read in one way wherever it is given. -/
theorem isGivenBy_iff {reference : EntityReference} {target : Data} :
    reference.IsGivenBy target ↔ EntityReference.read (expand target) = .valid reference := by
  constructor
  · intro given
    obtain ⟨read, isRead, same⟩ :=
      replaced_eq_ok_iff.mp (given.assigned ⟨"", .one, reference, []⟩)
    have pointsAt : read = reference := congrArg Relationship.primaryEntity same
    rw [isRead, pointsAt]
  · intro isRead
    refine ⟨?_, fun relationship => relationship.read_fields isRead,
      fun relationship => replaced_eq_ok_iff.mpr ⟨reference, isRead, rfl⟩⟩
    intro entries relationship found run
    obtain ⟨_, _, pointsAt, _⟩ := Relationship.read_map_iff.mp run
    obtain ⟨_, same, read⟩ := required_eq_valid_iff.mp pointsAt
    cases found.symm.trans same
    exact Checked.valid.inj (read.symm.trans isRead)

theorem isGivenBy_text_iff {reference : EntityReference} {name : Text} :
    reference.IsGivenBy (.text name) ↔ ofDottedName name = reference := by
  rw [isGivenBy_iff, read_expand_text, valid_eq_valid_iff]

/-- References and dotted names stand for each other.  A reference is given by its own dotted name
exactly if its class has no dots.  Every text gives a reference, whose dotted name is the text
again, unless that is a name without dots behind a single dot, which is lost. -/
theorem isGivenBy_fullName (reference : EntityReference) (text : Text) :
    (reference.IsGivenBy (.text reference.fullName) ↔ .scalar '.' ∉ reference.entityClass.toList) ∧
    ∃ given : EntityReference, given.IsGivenBy (.text text) ∧
      (given.fullName = text ↔ ∀ name, .scalar '.' ∉ name.toList → text ≠ "." ++ name) ∧
      ∀ name, .scalar '.' ∉ name.toList → text = "." ++ name → given.fullName = name := by
  refine ⟨isGivenBy_text_iff.trans ofDottedName_fullName_iff, ofDottedName text,
    isGivenBy_text_iff.mpr rfl, fullName_ofDottedName_iff, ?_⟩
  rintro name bare rfl
  exact fullName_ofDottedName_dot bare

end EntityReference

end EntityForge
