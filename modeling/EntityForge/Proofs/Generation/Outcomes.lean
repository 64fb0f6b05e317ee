import EntityForge.Generation.Outcome
import EntityForge.Proofs.Code.Encoding
import EntityForge.Proofs.Text.Utf8
import Mathlib.Data.List.Find
import Mathlib.Data.List.Nodup

/-!
# Owners of files

Entities are worked off one after the other, and what becomes of one depends on the file names
taken before.  The outcome is that every file belongs to the first entity of its name for which a
class can be written: an entity without a class never takes a name.
-/

namespace EntityForge

variable {options : GeneratorOptions}

/-! ## Owners -/

/-- Whether a class can be written for an entity into a file of a given name. -/
def Entity.writes (options : GeneratorOptions) (fileName : Text) (entity : Entity) : Bool :=
  (entity.synthesize options).toBool && entity.fileName options == fileName

/-- The first entity for which a class can be written into a file of a given name. -/
def owner? (options : GeneratorOptions) (entities : List Entity) (fileName : Text) :
    Option Entity :=
  entities.find? (Entity.writes options fileName)

/-- Whether an entity owns the file of its name. -/
def Entity.HasFile (options : GeneratorOptions) (entities : List Entity) (entity : Entity) : Prop :=
  owner? options entities (entity.fileName options) = some entity

instance (entities : List Entity) (entity : Entity) :
    Decidable (entity.HasFile options entities) :=
  inferInstanceAs (Decidable (owner? options entities (entity.fileName options) = some entity))

theorem Entity.writes_iff {entity : Entity} {fileName : Text} :
    entity.writes options fileName = true ↔
      (∃ code, entity.synthesize options = .ok code) ∧ entity.fileName options = fileName := by
  rw [writes, Bool.and_eq_true, beq_iff_eq]
  cases entity.synthesize options with
  | ok code => simp [Except.toBool]
  | error error => simp [Except.toBool]

theorem owner?_eq_some {entities : List Entity} {fileName : Text} {entity : Entity}
    (found : owner? options entities fileName = some entity) :
    entity ∈ entities ∧ (∃ code, entity.synthesize options = .ok code) ∧
      entity.fileName options = fileName :=
  ⟨List.mem_of_find?_eq_some found, Entity.writes_iff.mp (List.find?_some found)⟩

theorem isSome_owner?_iff {entities : List Entity} {fileName : Text} :
    (owner? options entities fileName).isSome = true ↔
      ∃ entity ∈ entities, entity.writes options fileName = true := by
  rw [owner?, List.find?_isSome]

/-- Owners and their files belong together. -/
theorem owner?_eq_some_iff {entities : List Entity} {fileName : Text} {entity : Entity} :
    owner? options entities fileName = some entity ↔
      entity.HasFile options entities ∧ entity.fileName options = fileName := by
  constructor
  · intro found
    have sameName := (owner?_eq_some found).2.2
    refine ⟨?_, sameName⟩
    rw [Entity.HasFile, sameName]
    exact found
  · rintro ⟨owns, rfl⟩
    exact owns

/-- An entity owns its file, if it can be written and none before it writes the same file. -/
theorem hasFile_append_cons_iff {earlier later : List Entity} {entity : Entity}
    (distinct : (earlier ++ entity :: later).Nodup) :
    entity.HasFile options (earlier ++ entity :: later) ↔
      (∃ code, entity.synthesize options = .ok code) ∧
        ¬∃ other ∈ earlier, other.writes options (entity.fileName options) = true := by
  rw [Entity.HasFile, owner?, List.find?_append, ← owner?, ← isSome_owner?_iff]
  cases first : owner? options earlier (entity.fileName options) with
  | some other =>
      have notSame : other ≠ entity := by
        rintro rfl
        have before := (owner?_eq_some first).1
        exact List.disjoint_of_nodup_append distinct before List.mem_cons_self
      simp [notSame]
  | none =>
      have self : entity.writes options (entity.fileName options) = true ↔
          ∃ code, entity.synthesize options = .ok code := by
        simp [Entity.writes_iff]
      by_cases writes : entity.writes options (entity.fileName options) = true
      · rw [List.find?_cons_of_pos writes]
        simpa using self.mp writes
      · rw [List.find?_cons_of_neg writes]
        have notLater :
            later.find? (Entity.writes options (entity.fileName options)) ≠ some entity := by
          intro found
          exact writes (List.find?_some found)
        simp [notLater, ← self, writes]

/-! ## Outcomes -/

/-- What becomes of an entity among others, told by the owner of its file. -/
def Entity.outcomeAmong (options : GeneratorOptions) (entities : List Entity) (entity : Entity) :
    EntityOutcome :=
  match entity.synthesize options with
  | .error error => .failed error
  | .ok code =>
      if entity.HasFile options entities then .generated (entity.fileName options) code
      else .nameTaken (entity.fileName options)

/-- The result of an entity among others. -/
def Entity.resultAmong (options : GeneratorOptions) (entities : List Entity) (entity : Entity) :
    EntityResult :=
  ⟨entity, entity.outcomeAmong options entities⟩

/-- After an entity, the names are taken that it or an entity before it writes. -/
theorem mem_taken_iff {taken : List Text} {entity : Entity} {name : Text} :
    name ∈ taken ++
        ((EntityResult.mk entity (entity.outcome options taken)).file?.map (·.1)).toList ↔
      name ∈ taken ∨ entity.writes options name = true := by
  rw [List.mem_append, Entity.writes_iff, EntityResult.file?, Entity.outcome]
  cases entity.synthesize options with
  | error error => simp
  | ok code =>
      by_cases before : entity.fileName options ∈ taken
      · have covered : entity.fileName options = name → name ∈ taken := fun same => same ▸ before
        simpa [before] using covered
      · simp [before, eq_comm]

/-- The names that are taken are those of the entities before. -/
theorem entityResults_eq {taken : List Text} {earlier rest : List Entity}
    (distinct : (earlier ++ rest).Nodup)
    (known : ∀ name, name ∈ taken ↔ ∃ entity ∈ earlier, entity.writes options name = true) :
    entityResults options taken rest = rest.map (Entity.resultAmong options (earlier ++ rest)) := by
  induction rest generalizing taken earlier with
  | nil => rfl
  | cons entity rest ih =>
      have owns : entity.HasFile options (earlier ++ entity :: rest) ↔ _ :=
        hasFile_append_cons_iff distinct
      have here : entity.outcome options taken =
          entity.outcomeAmong options (earlier ++ entity :: rest) := by
        rw [Entity.outcome, Entity.outcomeAmong]
        cases run : entity.synthesize options with
        | error error => rfl
        | ok code =>
            rw [run] at owns
            by_cases before : entity.fileName options ∈ taken
            · have lost : ¬entity.HasFile options (earlier ++ entity :: rest) :=
                fun has => (owns.mp has).2 ((known _).mp before)
              simp [before, lost]
            · have won : entity.HasFile options (earlier ++ entity :: rest) :=
                owns.mpr ⟨⟨code, rfl⟩, fun other => before ((known _).mpr other)⟩
              simp [before, won]
      have split : earlier ++ entity :: rest = (earlier ++ [entity]) ++ rest := by simp
      have step : ∀ name,
          name ∈ taken ++ ((EntityResult.mk entity
            (entity.outcome options taken)).file?.map (·.1)).toList ↔
          ∃ other ∈ earlier ++ [entity], other.writes options name = true := by
        intro name
        rw [mem_taken_iff, known]
        simp only [List.mem_append, List.mem_singleton, or_and_right, exists_or, exists_eq_left]
      rw [entityResults, List.map_cons, ih (split ▸ distinct) step, Entity.resultAmong, here, split]

theorem EntityModel.nodup_entities (model : EntityModel) : model.entities.Nodup :=
  List.Nodup.of_map Entity.dottedName model.distinct

/-- In a model no entity stands twice, so that every file has its owner. -/
theorem EntityModel.results_eq (model : EntityModel) (options : GeneratorOptions) :
    model.results options = model.entities.map (Entity.resultAmong options model.entities) := by
  have distinct : ([] ++ model.entities).Nodup := model.nodup_entities
  have nothing : ∀ name, name ∈ ([] : List Text) ↔
      ∃ entity ∈ ([] : List Entity), entity.writes options name = true := by simp
  exact entityResults_eq distinct nothing

/-! ## Files and failures -/

namespace Entity

/-- With a file an entity is told with its class. -/
theorem resultAmong_of_hasFile {entities : List Entity} {entity : Entity}
    (has : entity.HasFile options entities) :
    ∃ code, entity.synthesize options = .ok code ∧
      (entity.resultAmong options entities).file? = some (entity.fileName options, code) ∧
      (entity.resultAmong options entities).failedName? = none ∧
      (entity.resultAmong options entities).error? = none := by
  obtain ⟨code, run⟩ := (owner?_eq_some has).2.1
  refine ⟨code, run, ?_⟩
  rw [resultAmong, outcomeAmong, run]
  simp only [if_pos has]
  exact ⟨rfl, rfl, rfl⟩

theorem isBlankText_entityClass_of_isValid {entity : Entity} (valid : entity.IsValid) :
    Text.isBlankText entity.entityClass = false := by
  cases blank : Text.isBlankText entity.entityClass with
  | false => rfl
  | true =>
      have found : Finding.emptyClassName entity.tableName ∈ entity.findings := by
        simp [findings, nameFindings, blank]
      cases valid _ found

/-- An entity with a class is known by it also where another entity has its file. -/
theorem failureName_of_synthesize {entity : Entity} {code : Text}
    (run : entity.synthesize options = .ok code) : entity.failureName = entity.entityClass := by
  have valid := (synthesize_eq_ok_iff_text.mp run).1
  rw [failureName]
  split
  next empty =>
    have blank : Text.isBlankText entity.entityClass = true := by
      rw [Text.isEmpty_iff.mp empty]
      rfl
    cases blank.symm.trans (isBlankText_entityClass_of_isValid valid)
  next => rfl

/-- Why an entity has no file, where it has none. -/
def failureMessage (options : GeneratorOptions) (entity : Entity) : Text :=
  match entity.synthesize options with
  | .error error => error.message
  | .ok _ =>
      "Entities generate the same file '" ++ entity.fileName options ++ "'; " ++
        "'" ++ entity.dottedName ++ "' skipped."

/-- Without a file an entity is told with its name and its reason. -/
theorem resultAmong_of_not_hasFile {entities : List Entity} {entity : Entity}
    (none : ¬entity.HasFile options entities) :
    (entity.resultAmong options entities).file? = .none ∧
      (entity.resultAmong options entities).failedName? = some entity.failureName ∧
      (entity.resultAmong options entities).error? = some (entity.failureMessage options) := by
  rw [resultAmong, outcomeAmong, failureMessage]
  cases run : entity.synthesize options with
  | error error => exact ⟨rfl, rfl, rfl⟩
  | ok code =>
      simp only [if_neg none, failureName_of_synthesize run]
      exact ⟨rfl, rfl, rfl⟩

end Entity

/-- The entities that own their file. -/
def withFile (options : GeneratorOptions) (entities : List Entity) : List Entity :=
  entities.filter fun entity => decide (entity.HasFile options entities)

/-- The entities that own no file. -/
def withoutFile (options : GeneratorOptions) (entities : List Entity) : List Entity :=
  entities.filter fun entity => !decide (entity.HasFile options entities)

/-- Whether a file is the one that an entity generates. -/
def Entity.Generates (options : GeneratorOptions) (entity : Entity) (file : Text × Text) :
    Prop :=
  file.1 = entity.fileName options ∧ entity.synthesize options = .ok file.2

/-- Every entity owns its file or is without one. -/
theorem length_withFile_add_length_withoutFile (entities : List Entity) :
    (withFile options entities).length + (withoutFile options entities).length =
      entities.length := by
  rw [withFile, withoutFile, ← List.countP_eq_length_filter, ← List.countP_eq_length_filter,
    List.length_eq_countP_add_countP fun entity => decide (entity.HasFile options entities)]
  simp only [Bool.not_eq_true, Bool.decide_eq_false]

theorem withoutFile_eq_nil_iff {entities : List Entity} :
    withoutFile options entities = [] ↔
      ∀ entity ∈ entities, entity.HasFile options entities := by
  simp [withoutFile, List.filter_eq_nil_iff]

theorem withFile_eq_self {entities : List Entity} (complete : withoutFile options entities = []) :
    withFile options entities = entities := by
  rw [withFile, List.filter_eq_self]
  intro entity member
  exact decide_eq_true (withoutFile_eq_nil_iff.mp complete entity member)

namespace EntityModel

variable (model : EntityModel) (options : GeneratorOptions)

/-- Every file is generated by its owner, in the order of the model. -/
theorem files_results :
    List.Forall₂ (Entity.Generates options) (withFile options model.entities)
      (generatedFiles (model.results options)) := by
  rw [generatedFiles, results_eq, List.filterMap_map]
  refine forall₂_filterMap ?_ ?_ <;> intro entity verdict
  · obtain ⟨code, run, file, _⟩ := Entity.resultAmong_of_hasFile (of_decide_eq_true verdict)
    exact ⟨_, file, rfl, run⟩
  · exact (Entity.resultAmong_of_not_hasFile (of_decide_eq_false verdict)).1

/-- The files can be encoded exactly if what the documentation of their owners shows can be. -/
theorem encodingFault?_eq_none_iff :
    encodingFault? (generatedFiles (model.results options)) = none ↔
      ∀ entity ∈ withFile options model.entities, entity.IsEncodable options.document := by
  rw [encodingFault?, List.findSome?_eq_none_iff]
  refine forall_mem_iff_of_forall₂ (model.files_results options) ?_
  rintro entity file ⟨_, run⟩
  rw [Text.Utf8.encodingFault?_eq_none_iff]
  exact Entity.isEncodable_iff_of_synthesize run

/-- Files without documentation can be encoded. -/
theorem encodingFault?_of_undocumented (plain : options.document = false) :
    encodingFault? (generatedFiles (model.results options)) = none := by
  rw [encodingFault?_eq_none_iff]
  intro entity _ documented
  cases plain.symm.trans documented

/-- Failures are told in the order of the model, too. -/
theorem failedNames_results :
    (withoutFile options model.entities).map Entity.failureName =
      (model.results options).filterMap EntityResult.failedName? := by
  rw [results_eq, List.filterMap_map]
  refine map_eq_of_forall₂ (forall₂_filterMap ?_ ?_) <;> intro entity verdict
  · have none : ¬entity.HasFile options model.entities := by simpa using verdict
    exact ⟨_, (Entity.resultAmong_of_not_hasFile none).2.1, rfl⟩
  · have has : entity.HasFile options model.entities := by simpa using verdict
    obtain ⟨_, _, _, notFailed, _⟩ := Entity.resultAmong_of_hasFile has
    exact notFailed

theorem errors_results :
    (withoutFile options model.entities).map (Entity.failureMessage options) =
      (model.results options).filterMap EntityResult.error? := by
  rw [results_eq, List.filterMap_map]
  refine map_eq_of_forall₂ (forall₂_filterMap ?_ ?_) <;> intro entity verdict
  · have none : ¬entity.HasFile options model.entities := by simpa using verdict
    exact ⟨_, (Entity.resultAmong_of_not_hasFile none).2.2, rfl⟩
  · have has : entity.HasFile options model.entities := by simpa using verdict
    obtain ⟨_, _, _, _, noError⟩ := Entity.resultAmong_of_hasFile has
    exact noError

/-- The files are a map from names to the classes of the owners. -/
theorem mem_generatedFiles_iff {fileName code : Text} :
    (fileName, code) ∈ generatedFiles (model.results options) ↔
      ∃ entity, owner? options model.entities fileName = some entity ∧
        entity.synthesize options = .ok code := by
  rw [generatedFiles, results_eq, List.filterMap_map, List.mem_filterMap]
  constructor
  · rintro ⟨entity, _, selected⟩
    by_cases has : entity.HasFile options model.entities
    · obtain ⟨own, run, file, _⟩ := Entity.resultAmong_of_hasFile has
      obtain ⟨rfl, rfl⟩ := Prod.mk.inj (Option.some.inj (file.symm.trans selected))
      exact ⟨entity, has, run⟩
    · cases (Entity.resultAmong_of_not_hasFile has).1.symm.trans selected
  · rintro ⟨entity, owns, run⟩
    obtain ⟨has, rfl⟩ := owner?_eq_some_iff.mp owns
    obtain ⟨own, found, file, _⟩ := Entity.resultAmong_of_hasFile has
    obtain rfl := Except.ok.inj (found.symm.trans run)
    exact ⟨entity, (owner?_eq_some owns).1, file⟩

/-- No file name is used twice. -/
theorem nodup_generatedFiles :
    ((generatedFiles (model.results options)).map Prod.fst).Nodup := by
  have names : (withFile options model.entities).map (Entity.fileName · options) =
      (generatedFiles (model.results options)).map Prod.fst := by
    refine map_eq_of_forall₂ ?_
    rw [List.forall₂_map_right_iff]
    exact (model.files_results options).imp fun _ _ generates => generates.1.symm
  rw [← names]
  refine List.Nodup.map_on ?_ (model.nodup_entities.filter _)
  intro left inLeft right inRight same
  have ownsLeft := of_decide_eq_true (List.mem_filter.mp inLeft).2
  have ownsRight := of_decide_eq_true (List.mem_filter.mp inRight).2
  rw [Entity.HasFile, same, ownsRight] at ownsLeft
  exact (Option.some.inj ownsLeft).symm

/-- Without entities that cannot be written every owner stays the same. -/
theorem owner?_filter {entities : List Entity} {keep : Entity → Bool}
    (failing : ∀ entity ∈ entities, keep entity = false →
      ¬∃ code, entity.synthesize options = .ok code) (fileName : Text) :
    owner? options (entities.filter keep) fileName = owner? options entities fileName := by
  rw [owner?, List.find?_filter, owner?]
  refine List.find?_congr fun entity member => ?_
  cases kept : keep entity with
  | true => simp
  | false =>
      have silent : entity.writes options fileName = false := by
        rw [Bool.eq_false_iff]
        intro writes
        exact failing entity member kept (Entity.writes_iff.mp writes).1
      simp [silent]

/-- Entities that cannot be written can be removed without any effect on the files. -/
theorem generatedFiles_filter {smaller : EntityModel} {keep : Entity → Bool}
    (removed : smaller.entities = model.entities.filter keep)
    (failing : ∀ entity ∈ model.entities, keep entity = false →
      ¬∃ code, entity.synthesize options = .ok code) :
    generatedFiles (smaller.results options) = generatedFiles (model.results options) := by
  rw [generatedFiles, generatedFiles, results_eq, results_eq, List.filterMap_map,
    List.filterMap_map, removed, List.filterMap_filter]
  refine List.filterMap_congr fun entity member => ?_
  have same : entity.HasFile options (model.entities.filter keep) ↔
      entity.HasFile options model.entities := by
    rw [Entity.HasFile, owner?_filter options failing, Entity.HasFile]
  by_cases has : entity.HasFile options model.entities
  · obtain ⟨code, run, file, _⟩ := Entity.resultAmong_of_hasFile has
    obtain ⟨again, rerun, refile, _⟩ := Entity.resultAmong_of_hasFile (same.mpr has)
    obtain rfl := Except.ok.inj (run.symm.trans rerun)
    have kept : keep entity = true := by
      rw [← Bool.not_eq_false]
      exact fun dropped => failing entity member dropped ⟨code, run⟩
    rw [if_pos kept, Function.comp_apply, refile, Function.comp_apply, file]
  · have file := (Entity.resultAmong_of_not_hasFile has).1
    have refile := (Entity.resultAmong_of_not_hasFile (mt same.mp has)).1
    rw [Function.comp_apply, refile, ite_self, Function.comp_apply, file]

end EntityModel

end EntityForge
