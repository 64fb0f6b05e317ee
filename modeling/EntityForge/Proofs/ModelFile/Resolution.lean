import EntityForge.Proofs.Model.DottedNames
import EntityForge.Proofs.ModelFile.Canonical
import EntityForge.Proofs.Validation.Targets

/-!
# Targets by class name

A target that is the class of an entity in the same file stands for the first such entity, whatever
its namespace.  Any other text is a dotted name, of which the class is what follows the last dot.
Classes are looked for before anything is read, and the targets are read with everything else; the
references that come out are those of the entities as they are read.
-/

namespace EntityForge

open EntityForge.Schema
open EntityForge.Schema.Checked
open EntityForge.Text

/-! ## References -/

namespace EntityReference

/-- A class is read with its namespace, if that is read. -/
theorem read_declared {declared : Data} {name : Text} {reference : EntityReference}
    (run : EntityReference.read (Data.object
      [("entity_namespace", declared), ("entity_class", .text name)]) = .valid reference) :
    readText declared = .valid reference.entityNamespace ∧ reference.entityClass = name := by
  obtain ⟨qualifier, given, _⟩ := read_map_iff.mp run
  obtain ⟨_, found, isName⟩ := required_eq_valid_iff.mp given
  cases found
  cases isName
  cases defaulted_eq_valid_iff.mp qualifier with
  | inl absent => cases absent.1
  | inr present =>
      obtain ⟨_, found, isQualifier⟩ := present
      cases found
      exact ⟨isQualifier, rfl⟩

end EntityReference

namespace ModelFile

/-! ## What targets stand for -/

/-- Whether a raw entity declares a class of a given name. -/
def declares (name : Text) (raw : Data) : Bool :=
  className? (entry "entity_class" raw) == some name

/-- The first entity of a file that declares a class of a given name. -/
def declaring? (file : List (Data × Entity)) (name : Text) : Option Entity :=
  (file.find? fun pair => declares name pair.1).map Prod.snd

/-- What the target of a raw relationship stands for in a file. -/
inductive StandsFor (file : List (Data × Entity)) : Data → EntityReference → Prop where
  | declared {name : Text} {first : Entity} :
      declaring? file name = some first →
      StandsFor file (.text name) ⟨first.entityNamespace, name⟩
  | dotted {qualifier name : Text} :
      declaring? file (qualifier ++ "." ++ name) = none → .scalar '.' ∉ name.toList →
      StandsFor file (.text (qualifier ++ "." ++ name)) ⟨qualifier, name⟩
  | bare {name : Text} :
      declaring? file name = none → .scalar '.' ∉ name.toList →
      StandsFor file (.text name) ⟨"", name⟩
  | full {entries : List (Data × Data)} {reference : EntityReference} :
      EntityReference.read (.map entries) = .valid reference →
      StandsFor file (.map entries) reference

/-- Whether a relationship is a raw one of a file with the reference that its target stands for. -/
def IsRelationshipOf (file : List (Data × Entity)) (raw : Data) (relationship : Relationship) :
    Prop :=
  ∃ entries target, raw = .map entries ∧
    required "property_name" readText entries = .valid relationship.propertyName ∧
    defaulted "cardinality" .one Cardinality.read entries = .valid relationship.cardinality ∧
    defaulted "properties" [] (readList readText) entries = .valid relationship.properties ∧
    Data.lookup? "primary_entity" entries = some target ∧
    StandsFor file target relationship.primaryEntity

/-- Whether an entity is a raw one of a file, with the relationships of the raw one in their
order. -/
def IsEntityOf (file : List (Data × Entity)) (raw : Data) (entity : Entity) : Prop :=
  ∃ entries items, raw = .map entries ∧
    Entity.read (.map (Data.without "relationships" entries)) =
      .valid { entity with relationships := [] } ∧
    members (entry "relationships" raw) = .ok items ∧
    List.Forall₂ (IsRelationshipOf file) items entity.relationships

/-! ## First declarations -/

/-- A known class has the namespace of the raw entity that declares it first. -/
theorem lookup_knownClasses (entities : List Data) (name : Text) :
    (knownClasses entities).lookup name = (entities.find? (declares name)).map namespaceOf := by
  induction entities with
  | nil => rfl
  | cons raw rest ih =>
      rw [knownClasses] at ih ⊢
      rw [List.filterMap_cons, List.find?_cons, knownClass?]
      cases given : className? (entry "entity_class" raw) with
      | none =>
          have other : declares name raw = false := by
            simp [declares, given]
          simp only [Option.map_none, other, ih]
      | some declared =>
          simp only [Option.map_some, List.lookup_cons]
          by_cases same : name = declared
          · subst same
            have here : declares name raw = true := by
              simp [declares, given]
            simp [here]
          · have other : declares name raw = false := by
              simpa [declares, given] using Ne.symm same
            simp only [beq_false_of_ne same, other, ih]

/-- The first declaration in a file is that among its raw entities. -/
theorem map_fst_find?_zip {entities : List Data} {read : List Entity}
    (lengths : entities.length = read.length) (name : Text) :
    ((entities.zip read).find? fun pair => declares name pair.1).map Prod.fst =
      entities.find? (declares name) := by
  have raws : (entities.zip read).map Prod.fst = entities := List.map_fst_zip (le_of_eq lengths)
  have searched : ((entities.zip read).map Prod.fst).find? (declares name) = _ := List.find?_map
  rw [raws] at searched
  exact searched.symm

/-! ## Entities after the walk -/

section

variable {known : List (Text × Data)} {raw : Data} {entity : Entity}

/-- An entity is read from a mapping, whose own entries the walk leaves as they are. -/
theorem exists_entries_of_read (run : Entity.read (walkedEntity known raw) = .valid entity) :
    ∃ entries, raw = .map entries ∧
      readList Relationship.read (.list ((memberList (entry "relationships" raw)).map
        (resolveRelationship known))) = .valid entity.relationships ∧
      Entity.read (.map (Data.without "relationships" entries)) =
        .valid { entity with relationships := [] } := by
  cases raw with
  | map entries => exact ⟨entries, rfl, Entity.read_assign_relationships_iff.mp run⟩
  | _ =>
      obtain ⟨entries, impossible⟩ := Entity.read_eq_valid run
      cases impossible

theorem readText_namespaceOf (run : Entity.read (walkedEntity known raw) = .valid entity) :
    readText (namespaceOf raw) = .valid entity.entityNamespace := by
  obtain ⟨entries, rfl, _, own⟩ := exists_entries_of_read run
  obtain ⟨qualifier, _⟩ := Entity.read_map_iff.mp own
  obtain ⟨declared, found, isQualifier⟩ := required_eq_valid_iff.mp qualifier
  rw [Data.lookup?_without_of_ne (by decide)] at found
  rw [namespaceOf, found]
  exact isQualifier

/-- An entity that declares a class is read with it. -/
theorem entityClass_of_declares {name : Text} (declared : declares name raw = true)
    (run : Entity.read (walkedEntity known raw) = .valid entity) : entity.entityClass = name := by
  obtain ⟨entries, rfl, _, own⟩ := exists_entries_of_read run
  obtain ⟨_, className, _⟩ := Entity.read_map_iff.mp own
  obtain ⟨given, found, isName⟩ := required_eq_valid_iff.mp className
  rw [Data.lookup?_without_of_ne (by decide)] at found
  rw [declares, entry, found, beq_iff_eq] at declared
  cases given with
  | text text =>
      cases isName
      rw [Option.getD_some, className?] at declared
      split at declared
      next => cases declared
      next => exact Option.some.inj declared
  | _ => cases declared

end

/-- Whether known classes are those that a file declares first, with the namespaces that are read
there. -/
structure AreDeclared (known : List (Text × Data)) (file : List (Data × Entity)) : Prop where
  found : ∀ name first, declaring? file name = some first →
    ∃ declared, known.lookup name = some declared ∧
      readText declared = .valid first.entityNamespace
  missing : ∀ name, declaring? file name = none → known.lookup name = none

section

variable {known : List (Text × Data)} {entities : List Data} {read : List Entity}
  (paired : List.Forall₂ (fun raw entity => Entity.read (walkedEntity known raw) = .valid entity)
    entities read)

include paired

/-- The first entity that declares a class is one that was read from its raw form. -/
theorem exists_of_declaring? {name : Text} {first : Entity}
    (found : declaring? (entities.zip read) name = some first) :
    ∃ raw, entities.find? (declares name) = some raw ∧ first ∈ read ∧
      Entity.read (walkedEntity known raw) = .valid first := by
  obtain ⟨pair, searched, rfl⟩ := Option.map_eq_some_iff.mp found
  have inFile := List.mem_of_find?_eq_some searched
  have among := map_fst_find?_zip paired.length_eq name
  rw [searched] at among
  exact ⟨pair.1, among.symm, (List.of_mem_zip inFile).2, List.forall₂_zip paired inFile⟩

theorem areDeclared_knownClasses :
    AreDeclared (knownClasses entities) (entities.zip read) := by
  constructor
  · intro name first found
    obtain ⟨raw, among, _, run⟩ := exists_of_declaring? paired found
    refine ⟨namespaceOf raw, ?_, readText_namespaceOf run⟩
    rw [lookup_knownClasses, among, Option.map_some]
  · intro name absent
    have among := map_fst_find?_zip paired.length_eq name
    rw [Option.map_eq_none_iff.mp absent] at among
    rw [lookup_knownClasses, ← among, Option.map_none, Option.map_none]

end

/-! ## Relationships after the walk -/

section

variable {known : List (Text × Data)} {file : List (Data × Entity)}
  {entries : List (Data × Data)} {relationship : Relationship}

theorem resolveRelationship_of_known {name : Text} {declared : Data}
    (given : Data.lookup? "primary_entity" entries = some (.text name))
    (found : known.lookup name = some declared) :
    resolveRelationship known (.map entries) =
      .map (Data.assign "primary_entity" (Data.object
        [("entity_namespace", declared), ("entity_class", .text name)]) entries) := by
  simp only [resolveRelationship, entry, given, Option.getD_some, found]

theorem resolveRelationship_of_unknown
    (other : ∀ name, Data.lookup? "primary_entity" entries = some (.text name) →
      known.lookup name = none) :
    resolveRelationship known (.map entries) = .map entries := by
  cases given : Data.lookup? "primary_entity" entries with
  | none => simp only [resolveRelationship, entry, given, Option.getD_none]
  | some target =>
      cases target with
      | text name =>
          simp only [resolveRelationship, entry, given, Option.getD_some, other name given]
      | _ => simp only [resolveRelationship, entry, given, Option.getD_some]

/-- A text that names no known class is a dotted name. -/
theorem standsFor_ofDottedName {name : Text} (absent : declaring? file name = none) :
    StandsFor file (.text name) (.ofDottedName name) := by
  by_cases dotted : .scalar '.' ∈ name.toList
  · obtain ⟨qualifier, rest, rfl, bare⟩ := EntityReference.exists_append_of_mem dotted
    rw [EntityReference.ofDottedName_append bare]
    exact .dotted absent bare
  · rw [EntityReference.ofDottedName_of_notMem dotted]
    exact .bare absent dotted

/-- The walk changes nothing but the target, which is then read as what it stands for. -/
theorem exists_resolveRelationship (declared : AreDeclared known file) {target : Data}
    (given : Data.lookup? "primary_entity" entries = some target) :
    ∃ changed resolved, resolveRelationship known (.map entries) = .map changed ∧
      (∀ name : Text, name ≠ "primary_entity" →
        Data.lookup? name changed = Data.lookup? name entries) ∧
      Data.lookup? "primary_entity" changed = some resolved ∧
      ∀ reference, EntityReference.read (EntityReference.expand resolved) = .valid reference →
        StandsFor file target reference := by
  -- A target that is no text is left alone, and so is a text that names no known class.
  have unchanged (other : ∀ name, target = .text name → known.lookup name = none) :
      resolveRelationship known (.map entries) = .map entries := by
    apply resolveRelationship_of_unknown
    intro name isText
    exact other name (Option.some.inj (given.symm.trans isText))
  cases target with
  | text name =>
      cases first : declaring? file name with
      | none =>
          have same := unchanged fun _ isText => Data.text.inj isText ▸ declared.missing name first
          refine ⟨entries, .text name, same, fun _ _ => rfl, given, ?_⟩
          intro reference run
          cases (EntityReference.read_expand_text name).symm.trans run
          exact standsFor_ofDottedName first
      | some entity =>
          obtain ⟨qualifier, found, isQualifier⟩ := declared.found name entity first
          refine ⟨_, _, resolveRelationship_of_known given found,
            fun _ different => Data.lookup?_assign_of_ne different _ _,
            Data.lookup?_assign_self _ _ _, ?_⟩
          intro reference run
          obtain ⟨again, isName⟩ := EntityReference.read_declared run
          have sameQualifier := valid_eq_valid_iff.mp (isQualifier.symm.trans again)
          have shape : reference = ⟨entity.entityNamespace, name⟩ := by
            rw [sameQualifier, ← isName]
          subst shape
          exact .declared first
  | map fields =>
      refine ⟨entries, .map fields, unchanged fun _ => nofun, fun _ _ => rfl, given, ?_⟩
      intro reference run
      exact .full run
  | _ =>
      refine ⟨entries, _, unchanged fun _ => nofun, fun _ _ => rfl, given, ?_⟩
      intro reference run
      obtain ⟨fields, impossible⟩ := EntityReference.read_eq_valid run
      cases impossible

theorem isRelationshipOf_of_read (declared : AreDeclared known file) {raw : Data}
    (run : Relationship.read (resolveRelationship known raw) = .valid relationship) :
    IsRelationshipOf file raw relationship := by
  cases raw with
  | map entries =>
      cases given : Data.lookup? "primary_entity" entries with
      | none =>
          have same : resolveRelationship known (.map entries) = .map entries := by
            apply resolveRelationship_of_unknown
            intro name found
            cases given.symm.trans found
          rw [same] at run
          obtain ⟨_, _, target, _⟩ := Relationship.read_map_iff.mp run
          obtain ⟨_, found, _⟩ := required_eq_valid_iff.mp target
          cases given.symm.trans found
      | some target =>
          obtain ⟨changed, resolved, shape, others, found, standsFor⟩ :=
            exists_resolveRelationship declared given
          rw [shape] at run
          obtain ⟨name, cardinality, reference, properties, _⟩ := Relationship.read_map_iff.mp run
          rw [required_congr (others "property_name" (by decide))] at name
          rw [defaulted_congr (others "cardinality" (by decide))] at cardinality
          rw [defaulted_congr (others "properties" (by decide))] at properties
          obtain ⟨_, again, isReference⟩ := required_eq_valid_iff.mp reference
          cases found.symm.trans again
          exact ⟨entries, target, rfl, name, cardinality, properties, given,
            standsFor _ isReference⟩
  | _ =>
      obtain ⟨entries, impossible⟩ := Relationship.read_eq_valid run
      cases impossible

end

/-! ## Files -/

theorem isEntityOf_of_read {known : List (Text × Data)} {file : List (Data × Entity)} {raw : Data}
    {entity : Entity} (declared : AreDeclared known file) (walkable : IsWalkable raw)
    (run : Entity.read (walkedEntity known raw) = .valid entity) : IsEntityOf file raw entity := by
  obtain ⟨entries, rfl, listed, own⟩ := exists_entries_of_read run
  refine ⟨entries, _, rfl, own, members_of_collection walkable.2, ?_⟩
  have paired := items_eq_valid_iff.mp listed
  rw [List.forall₂_map_left_iff] at paired
  exact paired.imp fun _ _ => isRelationshipOf_of_read declared

/-- The entities of a model are read from those of its file after the walk. -/
theorem exists_forall₂_of_parse {content : List (Data × Data)} {model : EntityModel}
    {options : GeneratorOptions} (run : parse content = .ok (model, options)) :
    ∃ entities, entities? content = some entities ∧ (∀ raw ∈ entities, IsWalkable raw) ∧
      List.Forall₂ (fun raw entity =>
        Entity.read (walkedEntity (knownClasses entities) raw) = .valid entity)
        entities model.entities := by
  obtain ⟨entities, resolved, found, walked, read⟩ := exists_resolved_of_parse run
  obtain ⟨walkable, rfl⟩ := resolveReferences_eq_ok_iff.mp walked
  rw [EntityModel.read_object_iff, List.forall₂_map_left_iff] at read
  exact ⟨entities, found, walkable, read⟩

/-- The reference to an entity in a namespace is never found to be unknown. -/
theorem unknownPrimaryEntity_notMem_findings_of_mem {model : EntityModel} {first : Entity}
    (inModel : first ∈ model.entities) (placed : first.entityNamespace ≠ "")
    (className member : Text) :
    Finding.unknownPrimaryEntity className member first.reference.fullName ∉ model.findings := by
  have dotted : first.reference.fullName = first.dottedName := by
    rw [EntityReference.fullName, if_neg (by simpa [Entity.reference] using placed)]
    rfl
  rw [EntityModel.unknownPrimaryEntity_mem_findings_iff, dotted]
  rintro ⟨_, _, _, _, _, _, _, unknown⟩
  exact unknown (List.mem_map_of_mem inModel)

/-- The entities and relationships of a file keep their order.  A target that names a class of the
file stands for the first entity that declares it, any other text is split at its last dot, and a
mapping is kept; and unless that first entity is without a namespace, its reference is found among
the entities of the model. -/
theorem targets_of_parse {content : List (Data × Data)} {model : EntityModel}
    {options : GeneratorOptions} (run : parse content = .ok (model, options)) :
    ∃ entities, entities? content = some entities ∧
      List.Forall₂ (IsEntityOf (entities.zip model.entities)) entities model.entities ∧
      ∀ name first, declaring? (entities.zip model.entities) name = some first →
        first ∈ model.entities ∧ first.entityClass = name ∧
        (first.entityNamespace ≠ "" → ∀ className member,
          Finding.unknownPrimaryEntity className member
            (EntityReference.fullName ⟨first.entityNamespace, name⟩) ∉ model.findings) := by
  obtain ⟨entities, found, walkable, paired⟩ := exists_forall₂_of_parse run
  have declared := areDeclared_knownClasses paired
  refine ⟨entities, found, ?_, ?_⟩
  · have both := (List.forall₂_and_left _ _).mpr ⟨walkable, paired⟩
    exact both.imp fun _ _ each => isEntityOf_of_read declared each.1 each.2
  · intro name first declaring
    obtain ⟨raw, among, inModel, read⟩ := exists_of_declaring? paired declaring
    have isClass := entityClass_of_declares (List.find?_some among) read
    subst isClass
    exact ⟨inModel, rfl, unknownPrimaryEntity_notMem_findings_of_mem inModel⟩

/-- A file with two classes of one name and a class with a dot in its name, and with targets in
every spelling. -/
def namesakes : List (Data × Data) :=
  let link (name : Text) (target : Data) :=
    Data.object [("property_name", .text name), ("primary_entity", target)]
  let entity (qualifier name : Text) (links : List Data) :=
    Data.object
      [ ("entity_namespace", .text qualifier), ("entity_class", .text name),
        ("relationships", .list links) ]
  [ (.text "entities", .list
      [ entity "Shop" "Order"
          [ link "Item" (.text "Item"), link "Stored" (.text "Store.Item"),
            link "Part" (.text "Part.Item"),
            link "Other" (.object [("entity_class", .text "Item")]) ],
        entity "Shop" "Item" [], entity "Store" "Item" [], entity "Store" "Part.Item" [] ]) ]

/-- The bare name stands for the first of the two classes. -/
theorem targets_of_parse_namesakes :
    ∃ model options entities, parse namesakes = .ok (model, options) ∧
      entities? namesakes = some entities ∧
      List.Forall₂ (IsEntityOf (entities.zip model.entities)) entities model.entities ∧
      (model.entities.flatMap Entity.relationships).map Relationship.primaryEntity =
        [⟨"Shop", "Item"⟩, ⟨"Store", "Item"⟩, ⟨"Store", "Part.Item"⟩, ⟨"", "Item"⟩] := by
  let targets (result : EntityModel × GeneratorOptions) : List EntityReference :=
    (result.1.entities.flatMap Entity.relationships).map Relationship.primaryEntity
  have given : (parse namesakes).toOption.map targets =
      some [⟨"Shop", "Item"⟩, ⟨"Store", "Item"⟩, ⟨"Store", "Part.Item"⟩, ⟨"", "Item"⟩] := by
    decide +kernel
  cases outcome : parse namesakes with
  | error fault =>
      rw [outcome] at given
      cases given
  | ok result =>
      obtain ⟨entities, found, read, _⟩ := targets_of_parse outcome
      rw [outcome] at given
      exact ⟨result.1, result.2, entities, rfl, found, read, Option.some.inj given⟩

end ModelFile

end EntityForge
