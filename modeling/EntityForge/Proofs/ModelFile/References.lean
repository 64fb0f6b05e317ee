import EntityForge.ModelFile.References
import EntityForge.Proofs.Model.Reader
import EntityForge.Proofs.Traversal

/-!
# Walks over raw entities

Before raw entities are read, their class names are collected and their relationships are gone
through.  The walk faults on a class that cannot be looked up and on relationships that are no
collection.  Where it gets through, what is read afterwards is what a plain expansion of the
targets would give.
-/

namespace EntityForge.ModelFile

open EntityForge.Schema
open EntityForge.Schema.Checked

/-! ## Where the walk gets through -/

/-- Whether a value can be gone through item by item. -/
def isCollection : Data → Bool
  | .list _ | .tuple _ | .set _ | .map _ | .text _ | .bytes _ => true
  | _ => false

/-- What an entity declares as its class can be looked up, if it is there. -/
def HasUsableClass (raw : Data) : Prop :=
  (entry "entity_class" raw).isTruthy = true → (entry "entity_class" raw).isHashable = true

/-- The relationships of an entity can be gone through, if there are any. -/
def HasUsableRelationships (raw : Data) : Prop :=
  (entry "relationships" raw).isTruthy = true → isCollection (entry "relationships" raw) = true

/-- Whether references can be looked for in a raw entity. -/
def IsWalkable (raw : Data) : Prop :=
  HasUsableClass raw ∧ HasUsableRelationships raw

/-- What a value declares as the name of a class.  Names are texts that are not empty. -/
def className? : Data → Option Text
  | .text name => if name.isEmpty then none else some name
  | _ => none

/-- The namespace of a raw entity, empty where there is none. -/
def namespaceOf : Data → Data
  | .map entries => (Data.lookup? "entity_namespace" entries).getD (.text "")
  | _ => .text ""

/-- The class that a raw entity declares, with its namespace. -/
def knownClass? (raw : Data) : Option (Text × Data) :=
  (className? (entry "entity_class" raw)).map fun name => (name, namespaceOf raw)

theorem className?_eq_none {declared : Data} (absent : declared.isTruthy = false) :
    className? declared = none := by
  cases declared with
  | text name => simpa [className?, Data.isTruthy] using absent
  | _ => rfl

theorem declaredClass_of_usable {raw : Data} (usable : HasUsableClass raw) :
    declaredClass raw = .ok (knownClass? raw) := by
  cases raw with
  | map entries =>
      have declares : entry "entity_class" (.map entries) =
          (Data.lookup? "entity_class" entries).getD .null := rfl
      rw [HasUsableClass, declares] at usable
      rw [declaredClass, knownClass?, declares]
      generalize (Data.lookup? "entity_class" entries).getD .null = declared at usable
      cases truthy : declared.isTruthy with
      | false => simp [className?_eq_none truthy]
      | true =>
          have fixed : declared.changeable? = none :=
            Option.isNone_iff_eq_none.mp (usable truthy)
          cases declared with
          | text name =>
              have filled : name.isEmpty = false := by simpa [Data.isTruthy] using truthy
              simp [fixed, className?, filled, namespaceOf]
          | _ => simp [fixed, className?]
  | _ => rfl

theorem declaredClass_of_not_usable {raw : Data} (unusable : ¬HasUsableClass raw) :
    ∃ fault, declaredClass raw = .error fault := by
  cases raw with
  | map entries =>
      have declares : entry "entity_class" (.map entries) =
          (Data.lookup? "entity_class" entries).getD .null := rfl
      rw [HasUsableClass, declares] at unusable
      rw [declaredClass]
      generalize (Data.lookup? "entity_class" entries).getD .null = declared at unusable
      obtain ⟨truthy, changing⟩ := Classical.not_imp.mp unusable
      obtain ⟨collection, found⟩ := Option.ne_none_iff_exists'.mp
        (mt Option.isNone_iff_eq_none.mpr changing)
      exact ⟨.notAName collection.kindName, by simp [truthy, found]⟩
  | _ => exact absurd (fun impossible => absurd impossible Bool.false_ne_true) unusable

/-- The classes that raw entities declare, in their order. -/
def knownClasses (entities : List Data) : List (Text × Data) :=
  entities.filterMap knownClass?

/-- Class names are collected exactly if each of them can be looked up. -/
theorem classNamespaces_eq_ok_iff {entities : List Data} {known : List (Text × Data)} :
    classNamespaces entities = .ok known ↔
      (∀ raw ∈ entities, HasUsableClass raw) ∧ known = knownClasses entities := by
  rw [classNamespaces, map_eq_ok_iff]
  simp only [mapM_eq_ok_iff_map (fun _ => declaredClass_of_usable)
    (fun _ => declaredClass_of_not_usable)]
  constructor
  · rintro ⟨_, ⟨usable, rfl⟩, rfl⟩
    exact ⟨usable, by rw [knownClasses, List.filterMap_map]; rfl⟩
  · rintro ⟨usable, rfl⟩
    exact ⟨_, ⟨usable, rfl⟩, by rw [knownClasses, List.filterMap_map]; rfl⟩

/-- What is gone through in a value, if anything. -/
def memberList (value : Data) : List Data :=
  if !value.isTruthy then []
  else
    match value with
    | .list items | .tuple items | .set items => items
    | .map entries => entries.map (·.1)
    | .text text => text.toList.map fun character => .text (Text.ofList [character])
    | .bytes bytes => bytes.map fun byte => .int byte.toNat
    | _ => []

theorem members_of_collection {value : Data}
    (usable : value.isTruthy = true → isCollection value = true) :
    members value = .ok (memberList value) := by
  unfold members memberList
  cases truthy : value.isTruthy with
  | false => rfl
  | true =>
      cases value with
      | list | tuple | set | map | text | bytes => rfl
      | _ => cases usable truthy

theorem members_of_no_collection {value : Data}
    (unusable : ¬(value.isTruthy = true → isCollection value = true)) :
    ∃ fault, members value = .error fault := by
  obtain ⟨truthy, other⟩ := Classical.not_imp.mp unusable
  unfold members
  rw [truthy]
  cases value with
  | list | tuple | set | map | text | bytes => exact absurd rfl other
  | _ => exact ⟨_, rfl⟩

/-- A raw entity after the walk. -/
def walkedEntity (known : List (Text × Data)) (raw : Data) : Data :=
  match raw with
  | .map entries =>
      let walked := (memberList (entry "relationships" raw)).map (resolveRelationship known)
      .map (Data.assign "relationships" (.list walked) entries)
  | _ => raw

theorem resolveEntity_of_usable (known : List (Text × Data)) {raw : Data}
    (usable : HasUsableRelationships raw) :
    resolveEntity known raw = .ok (walkedEntity known raw) := by
  cases raw with
  | map entries =>
      have walked := members_of_collection usable
      rw [resolveEntity, walkedEntity]
      rw [entry] at walked
      rw [walked]
      rfl
  | _ => rfl

theorem resolveEntity_of_not_usable (known : List (Text × Data)) {raw : Data}
    (unusable : ¬HasUsableRelationships raw) :
    ∃ fault, resolveEntity known raw = .error fault := by
  cases raw with
  | map entries =>
      obtain ⟨fault, failed⟩ := members_of_no_collection unusable
      rw [entry] at failed
      rw [resolveEntity, failed]
      exact ⟨fault, rfl⟩
  | _ => exact absurd (fun impossible => absurd impossible Bool.false_ne_true) unusable

/-- The walk gets through exactly if it does so at every entity. -/
theorem resolveReferences_eq_ok_iff {entities resolved : List Data} :
    resolveReferences entities = .ok resolved ↔
      (∀ raw ∈ entities, IsWalkable raw) ∧
        resolved = entities.map (walkedEntity (knownClasses entities)) := by
  have walk : resolveReferences entities =
      (classNamespaces entities).bind fun known => entities.mapM (resolveEntity known) := rfl
  rw [walk]
  cases collected : classNamespaces entities with
  | error fault =>
      constructor
      · intro impossible
        cases impossible
      · rintro ⟨walkable, _⟩
        have usable : ∀ raw ∈ entities, HasUsableClass raw :=
          fun raw member => (walkable raw member).1
        cases collected.symm.trans (classNamespaces_eq_ok_iff.mpr ⟨usable, rfl⟩)
  | ok known =>
      obtain ⟨classes, rfl⟩ := classNamespaces_eq_ok_iff.mp collected
      have later : entities.mapM (resolveEntity (knownClasses entities)) = .ok resolved ↔
          (∀ raw ∈ entities, HasUsableRelationships raw) ∧
            resolved = entities.map (walkedEntity (knownClasses entities)) :=
        mapM_eq_ok_iff_map (fun _ => resolveEntity_of_usable _)
          (fun _ => resolveEntity_of_not_usable _)
      refine later.trans (and_congr_left fun _ => ?_)
      exact ⟨fun usable raw member => ⟨classes raw member, usable raw member⟩,
        fun walkable raw member => (walkable raw member).2⟩

/-! ## What is read after the walk -/

/-- A raw entity with the bare names of targets in full.  Relationships that are absent in all but
name are dropped, and relationships that are no list stay as they are. -/
def expandEntity (known : List (Text × Data)) (raw : Data) : Data :=
  match raw, entry "relationships" raw with
  | .map entries, .list items | .map entries, .tuple items | .map entries, .set items =>
      .map (Data.assign "relationships" (.list (items.map (resolveRelationship known))) entries)
  | .map entries, value =>
      if value.isTruthy then raw else .map (Data.without "relationships" entries)
  | _, _ => raw

/-- Whether a value is no list, whatever is called one. -/
def IsNoList (value : Data) : Prop :=
  ∀ items, value ≠ .list items ∧ value ≠ .tuple items ∧ value ≠ .set items

theorem exists_of_not_isNoList {value : Data} (listed : ¬IsNoList value) :
    ∃ items, value = .list items ∨ value = .tuple items ∨ value = .set items := by
  obtain ⟨items, found⟩ := Classical.not_forall.mp listed
  simp only [ne_eq, not_and_or, not_not] at found
  exact ⟨items, found⟩

/-- What is no mapping stays what it is. -/
theorem resolveRelationship_of_not_map {known : List (Text × Data)} {item : Data}
    (other : ∀ inner, item ≠ .map inner) : resolveRelationship known item = item := by
  cases item with
  | map inner => exact absurd rfl (other inner)
  | _ => rfl

/-- Relationships with a member that is no mapping are not read after the walk. -/
theorem read_assign_ne_valid {known : List (Text × Data)} {items : List Data} {item : Data}
    (member : item ∈ items) (other : ∀ inner, item ≠ .map inner) {entries : List (Data × Data)}
    {entity : Entity} :
    Entity.read (.map (Data.assign "relationships"
      (.list (items.map (resolveRelationship known))) entries)) ≠ .valid entity := by
  intro run
  obtain ⟨found, shape, maps⟩ := Entity.read_relationships run (Data.lookup?_assign_self _ _ _)
  rcases shape with same | same | same <;> cases same
  have inMap := List.mem_map_of_mem member (f := resolveRelationship known)
  rw [resolveRelationship_of_not_map other] at inMap
  obtain ⟨inner, isMap⟩ := maps item inMap
  exact other inner isMap

theorem ne_null_of_isTruthy {value : Data} (truthy : value.isTruthy = true) : value ≠ .null := by
  intro same
  rw [same] at truthy
  cases truthy

/-- Relationships that are neither a list nor null are not read without the walk. -/
theorem read_ne_valid {entries : List (Data × Data)} {value : Data} {entity : Entity}
    (found : entry "relationships" (.map entries) = value) (given : value ≠ .null)
    (other : IsNoList value) :
    Entity.read (.map entries) ≠ .valid entity := by
  intro run
  have present : Data.lookup? "relationships" entries = some value := by
    rw [entry] at found
    cases lookup : Data.lookup? "relationships" entries with
    | some inside =>
        rw [lookup] at found
        exact congrArg some found
    | none =>
        rw [lookup] at found
        exact absurd found.symm given
  obtain ⟨items, shape, _⟩ := Entity.read_relationships run present
  obtain ⟨noList, noTuple, noSet⟩ := other items
  rcases shape with same | same | same
  · exact noList same
  · exact noTuple same
  · exact noSet same

theorem memberList_eq_nil {value : Data} (absent : value.isTruthy = false) :
    memberList value = [] := by
  unfold memberList
  rw [absent]
  rfl

/-- A collection that is no list has members that are no mappings. -/
theorem exists_mem_memberList {value : Data} (truthy : value.isTruthy = true)
    (usable : isCollection value = true) (other : IsNoList value)
    (proper : value.isProper = true) :
    ∃ item ∈ memberList value, ∀ inner, item ≠ .map inner := by
  unfold memberList
  rw [truthy]
  cases value with
  | list items => exact absurd rfl (other items).1
  | tuple items => exact absurd rfl (other items).2.1
  | set items => exact absurd rfl (other items).2.2
  | text text =>
      have filled : text.toList ≠ [] := by
        simpa [Data.isTruthy, Text.isEmpty_iff, Text.toList_eq_nil_iff] using truthy
      obtain ⟨first, rest, shape⟩ := List.exists_cons_of_ne_nil filled
      exact ⟨.text (Text.ofList [first]), by simp [shape], by simp⟩
  | bytes bytes =>
      cases bytes with
      | nil => cases truthy
      | cons first rest =>
          exact ⟨.int first.toNat, by simp, by simp⟩
  | map entries =>
      cases entries with
      | nil => cases truthy
      | cons first rest =>
          refine ⟨first.1, by simp, ?_⟩
          intro inner same
          have member : (.map inner, first.2) ∈ first :: rest := by
            rw [← same]
            exact List.mem_cons_self
          exact Data.key_ne_map proper member
  | _ => cases usable

/-- A list of relationships is walked and expanded alike. -/
theorem walkedEntity_of_list {known : List (Text × Data)} {entries : List (Data × Data)}
    {items : List Data}
    (listed : entry "relationships" (.map entries) = .list items ∨
      entry "relationships" (.map entries) = .tuple items ∨
      entry "relationships" (.map entries) = .set items) :
    walkedEntity known (.map entries) = expandEntity known (.map entries) := by
  have walked : memberList (entry "relationships" (.map entries)) = items := by
    rcases listed with same | same | same <;>
    · rw [same]
      cases items <;> rfl
  simp only [walkedEntity, walked]
  rcases listed with same | same | same <;> simp only [expandEntity, same]

theorem expandEntity_of_noList {known : List (Text × Data)} {entries : List (Data × Data)}
    (other : IsNoList (entry "relationships" (.map entries))) :
    expandEntity known (.map entries) =
      if (entry "relationships" (.map entries)).isTruthy then .map entries
      else .map (Data.without "relationships" entries) := by
  cases shape : entry "relationships" (.map entries) with
  | list items => exact absurd shape (other items).1
  | tuple items => exact absurd shape (other items).2.1
  | set items => exact absurd shape (other items).2.2
  | _ => simp only [expandEntity, shape]

/-- The expansion changes nothing but the relationships. -/
theorem exists_expandEntity (known : List (Text × Data)) (entries : List (Data × Data)) :
    ∃ expanded, expandEntity known (.map entries) = .map expanded ∧
      ∀ name : Text, name ≠ "relationships" →
        Data.lookup? name expanded = Data.lookup? name entries := by
  by_cases other : IsNoList (entry "relationships" (.map entries))
  · rw [expandEntity_of_noList other]
    split
    next => exact ⟨entries, rfl, fun _ _ => rfl⟩
    next => exact ⟨_, rfl, fun _ different => Data.lookup?_without_of_ne different _⟩
  · obtain ⟨items, listed⟩ := exists_of_not_isNoList other
    refine ⟨_, (walkedEntity_of_list listed).symm, ?_⟩
    exact fun _ different => Data.lookup?_assign_of_ne different _ _

theorem isProper_entry (name : Text) {entries : List (Data × Data)}
    (proper : (Data.map entries).isProper = true) :
    (entry name (.map entries)).isProper = true := by
  rw [entry]
  cases found : Data.lookup? name entries with
  | none => rfl
  | some value => exact Data.isProper_of_lookup? proper found

/-- The walk makes no difference for what is read, apart from targets and absent relationships. -/
theorem read_walkedEntity_iff {known : List (Text × Data)} {raw : Data} {entity : Entity}
    (proper : raw.isProper = true) (usable : HasUsableRelationships raw) :
    Entity.read (walkedEntity known raw) = .valid entity ↔
      Entity.read (expandEntity known raw) = .valid entity := by
  cases raw with
  | map entries =>
      by_cases other : IsNoList (entry "relationships" (.map entries))
      · rw [expandEntity_of_noList other]
        cases truthy : (entry "relationships" (.map entries)).isTruthy with
        | true =>
            have properValue := isProper_entry "relationships" proper
            obtain ⟨item, member, scalar⟩ :=
              exists_mem_memberList truthy (usable truthy) other properValue
            have given := ne_null_of_isTruthy truthy
            exact iff_of_false (read_assign_ne_valid member scalar) (read_ne_valid rfl given other)
        | false =>
            have walked : walkedEntity known (.map entries) =
                .map (Data.assign "relationships" (.list []) entries) := by
              rw [walkedEntity, memberList_eq_nil truthy, List.map_nil]
            rw [walked]
            exact Entity.read_without_relationships_iff
      · obtain ⟨items, listed⟩ := exists_of_not_isNoList other
        rw [walkedEntity_of_list listed]
  | _ => rfl

/-! ## What the walk lets pass -/

/-- Relationships that are given and are no list, but count as absent because they are empty, zero
or false. -/
def HasHollowRelationships (raw : Data) : Prop :=
  IsNoList (entry "relationships" raw) ∧ entry "relationships" raw ≠ .null ∧
    (entry "relationships" raw).isTruthy = false

/-- A raw entity with the bare names of targets in full, where only null relationships are
dropped. -/
def strictEntity (known : List (Text × Data)) (raw : Data) : Data :=
  match raw, entry "relationships" raw with
  | .map entries, .list items | .map entries, .tuple items | .map entries, .set items =>
      .map (Data.assign "relationships" (.list (items.map (resolveRelationship known))) entries)
  | .map entries, .null => .map (Data.without "relationships" entries)
  | _, _ => raw

theorem strictEntity_of_noList {known : List (Text × Data)} {entries : List (Data × Data)}
    (other : IsNoList (entry "relationships" (.map entries)))
    (given : entry "relationships" (.map entries) ≠ .null) :
    strictEntity known (.map entries) = .map entries := by
  cases shape : entry "relationships" (.map entries) with
  | null => exact absurd shape given
  | list items => exact absurd shape (other items).1
  | tuple items => exact absurd shape (other items).2.1
  | set items => exact absurd shape (other items).2.2
  | _ => simp only [strictEntity, shape]

theorem strictEntity_of_not_hollow (known : List (Text × Data)) {raw : Data}
    (solid : ¬HasHollowRelationships raw) : strictEntity known raw = expandEntity known raw := by
  cases raw with
  | map entries =>
      by_cases other : IsNoList (entry "relationships" (.map entries))
      · by_cases absent : entry "relationships" (.map entries) = .null
        · simp only [strictEntity, expandEntity, absent]
          rfl
        · have truthy : (entry "relationships" (.map entries)).isTruthy = true := by
            rw [← Bool.not_eq_false]
            exact fun empty => solid ⟨other, absent, empty⟩
          rw [strictEntity_of_noList other absent, expandEntity_of_noList other, if_pos truthy]
      · obtain ⟨items, listed⟩ := exists_of_not_isNoList other
        rcases listed with same | same | same <;> simp only [strictEntity, expandEntity, same]
  | _ => rfl

/-- Hollow relationships are not read without the walk. -/
theorem read_strictEntity_ne_valid {known : List (Text × Data)} {raw : Data} {entity : Entity}
    (hollow : HasHollowRelationships raw) :
    Entity.read (strictEntity known raw) ≠ .valid entity := by
  obtain ⟨other, given, _⟩ := hollow
  cases raw with
  | map entries =>
      rw [strictEntity_of_noList other given]
      exact read_ne_valid rfl given other
  | _ => exact absurd rfl given

theorem read_strictEntity_iff {known : List (Text × Data)} {raw : Data} {entity : Entity} :
    Entity.read (strictEntity known raw) = .valid entity ↔
      Entity.read (expandEntity known raw) = .valid entity ∧ ¬HasHollowRelationships raw := by
  by_cases hollow : HasHollowRelationships raw
  · exact iff_of_false (read_strictEntity_ne_valid hollow) fun run => run.2 hollow
  · rw [strictEntity_of_not_hollow known hollow, and_iff_left hollow]

end EntityForge.ModelFile
