import EntityForge.Proofs.Code.Listing
import EntityForge.Proofs.Code.Outcome

/-!
# The order of relationships

The members for relationships are listed by the code units of their names, and the sort is stable.
Names with the same units are seldom different, but two surrogates have the units of the character
that they would make up, and become two underscores where that character is kept.  Relationships
with such names and with one target stand in the class as they are given.  In all other cases the
given order is not seen in the class, and it is never seen in whether there is one.
-/

namespace EntityForge

open EntityForge.Identifier
open EntityForge.Layout

/-! ## Outcomes -/

/-- Outcomes that are alike: one text, two refusals of one malformed entity, whose findings may name
the members in another order, or refusals for one type. -/
inductive SameOutcome : Except SynthesisError Text → Except SynthesisError Text → Prop where
  | written (code : Text) : SameOutcome (.ok code) (.ok code)
  | malformed (name : Text) (findings others : List Finding) :
      SameOutcome (.error (.precondition name findings)) (.error (.precondition name others))
  | unsupportedType (error : UnsupportedType) :
      SameOutcome (.error (.unsupportedType error)) (.error (.unsupportedType error))

theorem sameOutcome_ok_iff {left right : Text} :
    SameOutcome (.ok left) (.ok right) ↔ left = right := by
  constructor
  · rintro ⟨⟩
    rfl
  · rintro rfl
    exact .written left

/-! ## Reordered entities -/

namespace Entity

variable {entity : Entity} {relationships : List Relationship}

theorem memberNames_perm (reordered : relationships.Perm entity.relationships) :
    ({ entity with relationships }).memberNames.Perm entity.memberNames :=
  (reordered.map _).append_left _

/-- A malformed entity is so in every order. -/
theorem IsMalformed.of_perm (reordered : relationships.Perm entity.relationships)
    (malformed : ({ entity with relationships } : Entity).IsMalformed) : entity.IsMalformed := by
  have members := memberNames_perm reordered
  cases malformed with
  | blankClass blank => exact .blankClass blank
  | blankNamespace blank => exact .blankNamespace blank
  | blankMember member blank => exact .blankMember (members.subset member) blank
  | sameMembers repeated =>
      apply IsMalformed.sameMembers
      intro distinct
      exact repeated ((members.map Identifier.safeName).nodup_iff.mpr distinct)
  | memberNamedLikeClass member same => exact .memberNamedLikeClass (members.subset member) same
  | blankTarget member blank => exact .blankTarget (reordered.subset member) blank

theorem isMalformed_perm_iff (reordered : relationships.Perm entity.relationships) :
    ({ entity with relationships } : Entity).IsMalformed ↔ entity.IsMalformed := by
  constructor
  · exact IsMalformed.of_perm reordered
  · intro malformed
    have back : entity.relationships.Perm
        ({ entity with relationships } : Entity).relationships := reordered.symm
    exact IsMalformed.of_perm back malformed

/-- A malformed entity is refused under its own name. -/
theorem exists_precondition_of_isMalformed (malformed : entity.IsMalformed)
    (options : GeneratorOptions) :
    ∃ findings, entity.synthesize options = .error (.precondition entity.failureName findings) := by
  obtain ⟨error, refused⟩ := exists_ensureValid_eq_error_iff.mpr malformed
  refine ⟨entity.findings.filter Finding.isError, synthesize_eq_error_iff.mpr (.inl ?_)⟩
  rw [ensureValid] at refused ⊢
  split at refused
  next found => rw [if_pos found]
  next => cases refused

/-- Whether no text can be written for an entity. -/
def IsRefused (entity : Entity) : Prop :=
  entity.IsMalformed ∨ ∃ property ∈ entity.properties, ¬property.systemType.IsPrintable

theorem not_isRefused_iff (options : GeneratorOptions) :
    ¬entity.IsRefused ↔ ∃ code, entity.synthesize options = .ok code := by
  rw [exists_synthesize_iff, isValid_iff_not_isMalformed, IsRefused, not_or]
  push Not
  exact Iff.rfl

/-- A refusal is the same in every order. -/
theorem sameOutcome_of_isRefused (reordered : relationships.Perm entity.relationships)
    (refused : entity.IsRefused) (options : GeneratorOptions) :
    SameOutcome (entity.synthesize options)
      (({ entity with relationships } : Entity).synthesize options) := by
  by_cases malformed : entity.IsMalformed
  · obtain ⟨findings, refused⟩ := exists_precondition_of_isMalformed malformed options
    obtain ⟨others, refusedToo⟩ := exists_precondition_of_isMalformed
      ((isMalformed_perm_iff reordered).mpr malformed) options
    rw [refused, refusedToo]
    exact .malformed entity.failureName findings others
  · obtain ⟨error, first⟩ := exists_isFirstRefusal_iff.mpr (refused.resolve_left malformed)
    have soundToo := mt (isMalformed_perm_iff reordered).mp malformed
    rw [synthesize_eq_unsupportedType_iff.mpr ⟨malformed, first⟩,
      synthesize_eq_unsupportedType_iff.mpr ⟨soundToo, first⟩]
    exact .unsupportedType error

end Entity

/-! ## Navigations in a text -/

namespace Relationship

variable {relationship left right : Relationship} {nullableMode : Bool}

/-- The name of a navigation stands between spaces before the only opening brace of its
declaration. -/
theorem exists_toList_declaration (relationship : Relationship) (nullableMode : Bool) :
    ∃ before after : List Point, .scalar '{' ∉ before ∧ .scalar '{' ∉ after ∧
      (relationship.member nullableMode).declaration.text.toList =
        before ++ .scalar ' ' :: (safeName relationship.propertyName).toList ++ [.scalar ' '] ++
          .scalar '{' :: after := by
  have target : .scalar '{' ∉ relationship.primaryEntity.qualifiedName.toList :=
    relationship.primaryEntity.notMem_qualifiedName (by decide) (by decide)
  have typeName : .scalar '{' ∉ (relationship.member nullableMode).typeName.toList := by
    rw [member]
    cases relationship.cardinality with
    | many => simp [Member.typeName, collection, target]
    | one | zeroOrOne => exact target
  have declaredType := Member.notMem_declaredType (by decide) typeName
  have assignment : .scalar '{' ∉ (relationship.member nullableMode).assignment.toList := by
    rw [Member.assignment_eq]
    split <;> simp [nonNullDefault]
  obtain ⟨opening, _, noBrace, shape⟩ :=
    (relationship.member nullableMode).exists_text_declaration
  refine ⟨(opening ++ (relationship.member nullableMode).declaredType).toList,
    (" get; set; \x7d" ++ (relationship.member nullableMode).assignment).toList, ?_, ?_, ?_⟩
  · simp [noBrace, declaredType]
  · simp [assignment]
  · rw [shape, name_member]
    simp

/-- The declaration of a navigation determines its name. -/
theorem safeName_eq_of_declaration_eq
    (same : (left.member nullableMode).declaration.text.toList =
      (right.member nullableMode).declaration.text.toList) :
    safeName left.propertyName = safeName right.propertyName := by
  have noSpace (name : Text) : .scalar ' ' ∉ (safeName name).toList :=
    notMem_safeName (by decide) name
  obtain ⟨before, after, _, _, shape⟩ := left.exists_toList_declaration nullableMode
  obtain ⟨otherBefore, otherAfter, otherNoBrace, otherNoLaterBrace, otherShape⟩ :=
    right.exists_toList_declaration nullableMode
  have onlyBrace : .scalar '{' ∉ otherBefore ++
      .scalar ' ' :: (safeName right.propertyName).toList ++ [.scalar ' '] := by
    have name : .scalar '{' ∉ (safeName right.propertyName).toList :=
      notMem_safeName (by decide) right.propertyName
    simp [otherNoBrace, name]
  rw [shape, otherShape] at same
  obtain ⟨parts, _⟩ :=
    (List.append_cons_inj_of_notMem onlyBrace otherNoLaterBrace).mp same.symm
  have ends := congrArg (Text.splitLast ' ') (List.append_cancel_right parts)
  rw [Text.splitLast_append (noSpace _), Text.splitLast_append (noSpace _)] at ends
  exact (Text.toList_inj.mp (Prod.mk.inj ends).2).symm

end Relationship

/-- The lines of a member that are no comments. -/
theorem MemberText.filter_lines {member : MemberText}
    (comments : ∀ line ∈ member.comments, isComment line = true)
    (code : isComment member.declaration = false) :
    member.lines.filter (fun line => !isComment line) = [member.declaration] := by
  have none : member.comments.filter (fun line => !isComment line) = [] := by
    rw [List.filter_eq_nil_iff]
    intro line listed
    simp [comments line listed]
  rw [lines, List.filter_append, none, List.nil_append, List.filter_singleton, code]
  rfl

/-- Class files that differ in their statements and navigations at most have the same lines for the
navigations if all of their lines are the same, and they have as many statements. -/
theorem ClassText.flatMap_navigations_eq {left right : ClassText} (same : left.lines = right.lines)
    (opening : left.opening = right.opening)
    (count : left.statements.length = right.statements.length)
    (properties : left.properties = right.properties) (adapters : left.adapters = right.adapters)
    (closing : left.closing = right.closing) :
    left.navigations.flatMap MemberText.lines = right.navigations.flatMap MemberText.lines := by
  simp only [lines, marked, opening, properties, adapters, closing, List.append_assoc,
    List.cons_append, List.append_cancel_left_eq, List.cons.injEq, true_and] at same
  have later := (List.append_inj same count).2
  simpa using later

namespace Entity

variable {entity : Entity} {relationships : List Relationship} {options : GeneratorOptions}

/-- The declarations of the navigations are the lines of their region that are no comments. -/
theorem filter_navigations (entity : Entity) (nullableMode document : Bool) :
    (((entity.navigationMembers nullableMode).map (Member.reading document)).flatMap
        MemberText.lines).filter (fun line => !isComment line) =
      (Relationship.sorted entity.relationships).map fun relationship =>
        (relationship.member nullableMode).declaration.text.toList := by
  rw [navigationMembers, List.map_map, List.filter_flatMap, List.flatMap_map, List.map_eq_flatMap]
  congr 1
  funext relationship
  refine MemberText.filter_lines ?_ ?_
  · exact Member.isComment_reading (relationship.isSingle_member nullableMode)
      (relationship.strays_member nullableMode) document
  · exact Member.isComment_declaration _

/-- The text that is written for an entity is read as what is planned. -/
theorem exists_lines_of_synthesize {code : Text} (run : entity.synthesize options = .ok code) :
    ∃ plan, entity.plan options.nullable = .ok plan ∧
      (Text.splitOn '\n' code.toList).map withoutIndentation =
        (entity.reading options.fileScopedNamespace options.document plan).lines := by
  obtain ⟨_, plan, planned, rfl⟩ := synthesize_eq_ok_iff.mp run
  refine ⟨plan, planned, ?_⟩
  rw [contents_lines _ (isSingle_fileLines planned _ _), contents_fileLines]

/-- Relationships with legal names of their own are told apart by their declarations. -/
theorem eq_of_map_declaration_eq {nullableMode : Bool} {listed others : List Relationship}
    (distinct : (listed.map fun relationship => safeName relationship.propertyName).Nodup)
    (reordered : others.Perm listed)
    (same : (others.map fun relationship =>
        (relationship.member nullableMode).declaration.text.toList) =
      listed.map fun relationship =>
        (relationship.member nullableMode).declaration.text.toList) : others = listed := by
  refine List.ext_getElem reordered.length_eq fun index inOthers inListed => ?_
  have here := List.getElem_of_eq same (by simpa using inOthers)
  rw [List.getElem_map, List.getElem_map] at here
  exact List.inj_on_of_nodup_map distinct (reordered.subset (List.getElem_mem inOthers))
    (List.getElem_mem inListed) (Relationship.safeName_eq_of_declaration_eq here)

/-- In the text of a class the navigations stand in the order in which they are sorted. -/
theorem sorted_eq_of_synthesize (reordered : relationships.Perm entity.relationships)
    {code : Text} (run : entity.synthesize options = .ok code)
    (again : ({ entity with relationships } : Entity).synthesize options = .ok code) :
    Relationship.sorted relationships = Relationship.sorted entity.relationships := by
  have sound := isValid_iff_not_isMalformed.mp (synthesize_eq_ok_iff.mp run).1
  have sorts (given : List Relationship) : (Relationship.sorted given).Perm given :=
    (Relationship.isStableSort_sorted given).perm
  obtain ⟨plan, planned, lines⟩ := exists_lines_of_synthesize run
  obtain ⟨otherPlan, otherPlanned, otherLines⟩ := exists_lines_of_synthesize again
  obtain ⟨members, listed, rfl⟩ := plan_eq_ok_iff.mp planned
  obtain ⟨otherMembers, otherListed, rfl⟩ := plan_eq_ok_iff.mp otherPlanned
  cases listed.symm.trans otherListed
  have navigations := congrArg (List.filter fun line => !isComment line)
    (ClassText.flatMap_navigations_eq (otherLines.symm.trans lines) rfl ?_ rfl rfl rfl)
  · dsimp only [reading] at navigations
    rw [filter_navigations, filter_navigations] at navigations
    refine eq_of_map_declaration_eq ?_ ((sorts _).trans (reordered.trans (sorts _).symm))
      navigations
    exact ((sorts _).map _).nodup_iff.mpr (nodup_safeName_relationships sound)
  · simp only [reading, contents, List.length_map, length_collectionInitializers]
    exact (reordered.filter _).length_eq

/-- The plan of an entity depends on its relationships as they are sorted. -/
theorem plan_eq_of_sorted_eq
    (same : Relationship.sorted relationships = Relationship.sorted entity.relationships)
    (nullableMode : Bool) :
    ({ entity with relationships } : Entity).plan nullableMode = entity.plan nullableMode := by
  simp only [plan, collectionInitializers, navigationMembers, Relationship.sorted_filter, same]
  rfl

/-- An entity that is written is written alike exactly if the relationships of each listing key are
given in the same order. -/
theorem sameOutcome_iff (reordered : relationships.Perm entity.relationships)
    (accepted : ¬entity.IsRefused) (options : GeneratorOptions) :
    SameOutcome (entity.synthesize options)
        (({ entity with relationships } : Entity).synthesize options) ↔
      ∀ key, keyed Relationship.listingKey key relationships =
        keyed Relationship.listingKey key entity.relationships := by
  have acceptedToo : ¬({ entity with relationships } : Entity).IsRefused := by
    rw [IsRefused, isMalformed_perm_iff reordered]
    exact accepted
  obtain ⟨code, run⟩ := (not_isRefused_iff options).mp accepted
  obtain ⟨otherCode, otherRun⟩ := (not_isRefused_iff options).mp acceptedToo
  rw [run, otherRun, sameOutcome_ok_iff, ← (Relationship.isStableSort_sorted _).eq_iff
    (Relationship.isStableSort_sorted _)]
  constructor
  · rintro rfl
    exact sorted_eq_of_synthesize reordered run otherRun
  · intro same
    obtain ⟨_, plan, planned, rfl⟩ := synthesize_eq_ok_iff.mp run
    obtain ⟨_, otherPlan, otherPlanned, rfl⟩ := synthesize_eq_ok_iff.mp otherRun
    rw [plan_eq_of_sorted_eq same] at otherPlanned
    cases planned.symm.trans otherPlanned
    rfl

/-- Relationships of a sound entity are equal if their names are. -/
theorem eq_of_propertyName_eq (sound : ¬entity.IsMalformed) {left right : Relationship}
    (inLeft : left ∈ entity.relationships) (inRight : right ∈ entity.relationships)
    (same : left.propertyName = right.propertyName) : left = right :=
  List.inj_on_of_nodup_map (nodup_safeName_relationships sound) inLeft inRight
    (congrArg safeName same)

/-- Names without surrogates are told apart by the listing key. -/
theorem eq_of_listingKey_eq (sound : ¬entity.IsMalformed)
    (encodable : ∀ relationship ∈ entity.relationships,
      relationship.propertyName.isEncodable = true) {left right : Relationship}
    (inLeft : left ∈ entity.relationships) (inRight : right ∈ entity.relationships)
    (same : left.listingKey = right.listingKey) : left = right := by
  obtain ⟨units, _⟩ := Prod.mk.inj (toLex.injective same)
  obtain ⟨name, isName⟩ := Text.exists_string_of_isEncodable (encodable left inLeft)
  obtain ⟨otherName, isOtherName⟩ := Text.exists_string_of_isEncodable (encodable right inRight)
  rw [isName, isOtherName, Text.units_ofString_inj] at units
  exact eq_of_propertyName_eq sound inLeft inRight (by rw [isName, isOtherName, units])

/-- Whether an entity has one outcome in whatever order its relationships are given. -/
def IsOrderFree (entity : Entity) (options : GeneratorOptions) : Prop :=
  ∀ relationships, relationships.Perm entity.relationships →
    SameOutcome (entity.synthesize options)
      (({ entity with relationships } : Entity).synthesize options)

/-- A reordered entity has the same outcome unless a text is written and the relationships with one
listing key, which is made of the code units of name and target, are given in another order.  So
every order has one outcome exactly if no text is written or no two relationships share their key,
and names without surrogates never do. -/
theorem synthesize_perm_iff (entity : Entity) (options : GeneratorOptions) :
    (∀ relationships, relationships.Perm entity.relationships →
      (SameOutcome (entity.synthesize options)
          (({ entity with relationships } : Entity).synthesize options) ↔
        entity.IsRefused ∨ ∀ key, keyed Relationship.listingKey key relationships =
          keyed Relationship.listingKey key entity.relationships)) ∧
    (entity.IsOrderFree options ↔
      entity.IsRefused ∨ ∀ left ∈ entity.relationships, ∀ right ∈ entity.relationships,
        left.listingKey = right.listingKey → left = right) ∧
    ((∀ relationship ∈ entity.relationships, relationship.propertyName.isEncodable = true) →
      entity.IsOrderFree options) := by
  by_cases refused : entity.IsRefused
  · have free : entity.IsOrderFree options := fun relationships reordered =>
      sameOutcome_of_isRefused reordered refused options
    exact ⟨fun relationships reordered => iff_of_true (free relationships reordered) (.inl refused),
      iff_of_true free (.inl refused), fun _ => free⟩
  · have sound : ¬entity.IsMalformed := fun malformed => refused (.inl malformed)
    have distinct : entity.relationships.Nodup := (nodup_safeName_relationships sound).of_map
    have each (relationships : List Relationship)
        (reordered : relationships.Perm entity.relationships) :=
      sameOutcome_iff reordered refused options
    have free : entity.IsOrderFree options ↔
        ∀ left ∈ entity.relationships, ∀ right ∈ entity.relationships,
          left.listingKey = right.listingKey → left = right := by
      rw [← keyed_perm_iff distinct]
      exact forall₂_congr each
    simp only [refused, false_or]
    refine ⟨each, free, fun encodable => free.mpr ?_⟩
    intro left inLeft right inRight
    exact eq_of_listingKey_eq sound encodable inLeft inRight

/-- An order whose navigations are listed otherwise by code units than by code points. -/
def crossedOrder : Entity where
  entityNamespace := "Shop"
  entityClass := "Order"
  properties := [{ propertyName := "Id", systemType := ⟨"int", none⟩ }]
  relationships :=
    [{ propertyName := "Ｚ", primaryEntity := ⟨"Shop", "Customer"⟩ },
      { propertyName := "𐐀", primaryEntity := ⟨"Shop", "Item"⟩, cardinality := .many },
      { propertyName := "Items", primaryEntity := ⟨"Shop", "Item"⟩, cardinality := .many }]

/-- An order with two navigations to one target, one of them named by the halves of the name of the
other. -/
def halvedOrder : Entity where
  entityNamespace := "Shop"
  entityClass := "Order"
  properties := [{ propertyName := "Id", systemType := ⟨"int", none⟩ }]
  relationships :=
    [{ propertyName := .ofList [.surrogate 0, .surrogate 0x400]
       primaryEntity := ⟨"Shop", "Item"⟩ },
      { propertyName := "𐀀", primaryEntity := ⟨"Shop", "Item"⟩ }]

/-- The halves stand before or behind the whole as they are given, and both classes are written. -/
theorem synthesize_perm_iff_halvedOrder :
    (∃ code, halvedOrder.synthesize {} = .ok code) ∧
      ¬SameOutcome (halvedOrder.synthesize {})
        (({ halvedOrder with relationships := halvedOrder.relationships.reverse } :
          Entity).synthesize {}) ∧
      crossedOrder.IsOrderFree { nullable := true } := by
  have valid : halvedOrder.IsValid := by
    unfold IsValid
    decide +kernel
  have written : ∃ code, halvedOrder.synthesize {} = .ok code :=
    exists_synthesize_of_isQualifiedName {} valid (by decide)
  have accepted := (not_isRefused_iff {}).mpr written
  refine ⟨written, ?_, (synthesize_perm_iff crossedOrder { nullable := true }).2.2 (by decide)⟩
  rw [(synthesize_perm_iff halvedOrder {}).1 _ (List.reverse_perm _), or_iff_right accepted]
  intro alike
  have mirrored := alike (toLex ([0xd800, 0xdc00], Text.units "Shop.Item"))
  exact absurd mirrored (by decide +kernel)

end Entity

end EntityForge
