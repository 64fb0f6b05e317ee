import EntityForge.Proofs.Code.Initialization
import EntityForge.Proofs.Validation.Identity
import EntityForge.Proofs.Validation.Targets

/-!
# Links to foreign keys

A navigation to one entity is documented with links to its foreign keys.  Validation looks the raw
keys up among the raw names of the properties and passes over collections, while the links are made
of legal names, and it is decided anew which navigations have them.  Without a warning on a foreign
key, every link leads to a scalar that the same class declares.
-/

namespace EntityForge

open EntityForge.Identifier
open EntityForge.Layout

/-! ## Links in comments -/

/-- The comment line that links to a member. -/
def crossLink (name : Text) : Line :=
  .flat ("/// <seealso cref=\"" ++ name ++ "\" />")

theorem text_crossLink (name : Text) :
    (crossLink name).text = "/// <seealso cref=\"" ++ name ++ "\" />" :=
  rfl

theorem crossLink_inj {left right : Text} : crossLink left = crossLink right ↔ left = right := by
  constructor
  · intro same
    have texts := congrArg Line.text same
    rw [text_crossLink, text_crossLink] at texts
    simpa using texts
  · rintro rfl
    rfl

theorem head?_crossLink (name : Text) :
    (crossLink name).text.toList.head? = some (.scalar '/') := by
  simp [text_crossLink]

theorem isComment_crossLink (name : Text) : (crossLink name).isComment = true := by
  simp [Line.isComment, text_crossLink, isComment]

/-- A comment that opens otherwise links to nothing. -/
theorem crossLink_notMem_ofText {text : Text} (single : .scalar '\n' ∉ text.toList)
    (other : text.toList.take 7 ≠ ("/// <se" : Text).toList) (name : Text) :
    crossLink name ∉ Line.ofText text := by
  rw [Line.ofText_of_notMem single, List.mem_singleton]
  intro same
  have texts : text = (crossLink name).text := congrArg Line.text same.symm
  rw [texts] at other
  simp [text_crossLink] at other

/-- A text in one line that opens with no markup. -/
structure IsSentence (text : Text) : Prop where
  single : .scalar '\n' ∉ text.toList
  opens : text.toList.head? ≠ some (.scalar '<')

/-- A name in a sentence. -/
theorem IsSentence.frame {before after name : Text} {first : Point}
    (begins : before.toList.head? = some first) (word : first ≠ '<')
    (opening : .scalar '\n' ∉ before.toList) (closing : .scalar '\n' ∉ after.toList)
    (single : .scalar '\n' ∉ name.toList) : IsSentence (before ++ name ++ after) where
  single := by simp [opening, single, closing]
  opens := by simp [begins, word]

theorem crossLink_notMem_sentence {text : Text} (sentence : IsSentence text) (name : Text) :
    crossLink name ∉ Line.ofText ("/// " ++ text) := by
  have opens := sentence.opens
  apply crossLink_notMem_ofText
  · simp [sentence.single]
  · rw [Text.toList_append]
    cases shape : text.toList with
    | nil => decide
    | cons first rest =>
        rw [shape] at opens
        simpa using fun same => absurd (congrArg some same) opens

/-- Where the summary and the value are sentences, a documentation comment links to the given
members and to no others. -/
theorem crossLink_mem_documentation_iff {summary value name : Text} {seeAlso : List Text}
    (summarySentence : IsSentence summary) (valueSentence : IsSentence value)
    (links : ∀ link ∈ seeAlso, .scalar '\n' ∉ link.toList) :
    crossLink name ∈ documentation summary value seeAlso ↔ name ∈ seeAlso := by
  have markup : ∀ text ∈ ["/// <summary>", "/// </summary>", "/// <value>", "/// </value>"],
      crossLink name ∉ Line.ofText text := by
    intro text listed
    refine crossLink_notMem_ofText ?_ ?_ name <;> revert text <;> decide
  simp only [List.forall_mem_cons] at markup
  obtain ⟨summaryOpens, summaryCloses, valueOpens, valueCloses, _⟩ := markup
  have texts : crossLink name ∉ (if value.isEmpty then []
      else Line.ofText "/// <value>" ++ Line.ofText ("/// " ++ value) ++
        Line.ofText "/// </value>") := by
    split
    · exact List.not_mem_nil
    · simp only [List.mem_append, not_or]
      exact ⟨⟨valueOpens, crossLink_notMem_sentence valueSentence name⟩, valueCloses⟩
  have linked (link : Text) (listed : link ∈ seeAlso) :
      crossLink name ∈ Line.ofText ("/// <seealso cref=\"" ++ link ++ "\" />") ↔ name = link := by
    rw [Line.ofText_of_notMem (by simp [links link listed]), List.mem_singleton]
    exact crossLink_inj
  have sentence := crossLink_notMem_sentence summarySentence name
  simp only [documentation, List.mem_append, summaryOpens, sentence, summaryCloses, texts, false_or,
    List.mem_flatMap]
  constructor
  · rintro ⟨link, listed, found⟩
    exact (linked link listed).mp found ▸ listed
  · intro listed
    exact ⟨name, listed, (linked name listed).mpr rfl⟩

namespace Relationship

variable (relationship : Relationship) (nullableMode : Bool)

/-- Collections have no links, and other navigations one for each foreign key. -/
theorem seeAlso_member :
    (relationship.member nullableMode).seeAlso =
      if relationship.isCollection then [] else relationship.properties.map safeName := by
  rw [member, isCollection]
  cases relationship.cardinality <;> rfl

/-- A navigation is documented in sentences about its target. -/
theorem isSentence_member :
    IsSentence (relationship.member nullableMode).summary ∧
      IsSentence (relationship.member nullableMode).value := by
  have target := relationship.primaryEntity.newline_notMem_qualifiedName
  rw [member]
  cases relationship.cardinality with
  | many | one | zeroOrOne =>
      exact ⟨.frame rfl (by decide) (by decide) (by decide) target,
        .frame rfl (by decide) (by decide) (by decide) target⟩

variable {nullableMode}

/-- The lines of a navigation link to what it is documented to be linked to, if it is documented. -/
theorem crossLink_mem_lines_iff {document : Bool} {name : Text} :
    crossLink name ∈ (relationship.member nullableMode).lines document ↔
      document = true ∧ name ∈ (relationship.member nullableMode).seeAlso := by
  have declaration : crossLink name ≠ (relationship.member nullableMode).declaration := by
    intro same
    have comment := isComment_crossLink name
    rw [same, Member.isComment_declaration] at comment
    cases comment
  rw [Member.lines, List.mem_append, List.mem_singleton, or_iff_left declaration]
  cases document with
  | false => simp
  | true =>
      obtain ⟨summary, value⟩ := relationship.isSentence_member nullableMode
      rw [if_pos rfl, crossLink_mem_documentation_iff summary value
        (relationship.isSingle_member nullableMode).seeAlso]
      simp

end Relationship

/-! ## Planned links -/

/-- Whether the links of a planned class lead to scalars that its code declares. -/
structure ClassPlan.ResolvesLinks (plan : ClassPlan) (document : Bool) (code : Text) :
    Prop where
  named : ∀ member ∈ plan.relationships, ∀ link ∈ member.seeAlso,
    ∃ scalar ∈ plan.properties, scalar.name = link
  collections : ∀ member ∈ plan.relationships, member.role = "to_many" → member.seeAlso = []
  rendered : ∀ member ∈ plan.relationships, ∀ name,
    crossLink name ∈ member.lines document ↔ document = true ∧ name ∈ member.seeAlso
  declared : ∀ member ∈ plan.relationships, ∀ name, crossLink name ∈ member.lines document →
    HasLine code (crossLink name).text ∧
      ∃ scalar ∈ plan.properties, scalar.name = name ∧ HasLine code scalar.declaration.text

namespace Entity

variable {entity : Entity} {options : GeneratorOptions} {nullableMode : Bool} {plan : ClassPlan}

/-- Without a warning on them, the foreign keys of a navigation to one entity are properties by
their raw names. -/
theorem hasProperty_of_validate
    (known : ∀ warning ∈ entity.validate.warnings, warning.code ≠ "UNKNOWN_FOREIGN_KEY_PROPERTY")
    {relationship : Relationship} (inEntity : relationship ∈ entity.relationships)
    (single : ¬relationship.isCollection = true) {key : Text}
    (listed : key ∈ relationship.properties) : entity.HasProperty key := by
  by_contra unknown
  let finding : Finding :=
    .unknownForeignKeyProperty entity.entityClass relationship.propertyName key
  have absent : (!(entity.properties.map (·.propertyName)).contains key) = true := by
    simpa [HasProperty] using unknown
  have ofRelationship : finding ∈ entity.relationshipFindingsOf relationship := by
    rw [relationshipFindingsOf]
    refine List.mem_append_right _ ?_
    rw [Relationship.isCollection] at single
    rw [if_neg single]
    exact List.mem_map_of_mem (List.mem_filter.mpr ⟨listed, absent⟩)
  have found : finding ∈ entity.findings := by
    rw [findings]
    refine List.mem_append_left _ (List.mem_append_right _ ?_)
    exact List.mem_flatMap.mpr ⟨relationship, inEntity, ofRelationship⟩
  have notFound : finding ∉ entity.findings := Diagnostics.notMem_of_warnings known rfl
  exact notFound found

/-- The links of a navigation lead to scalars by the legal names of its keys. -/
theorem exists_scalar_of_mem_seeAlso
    (known : ∀ warning ∈ entity.validate.warnings, warning.code ≠ "UNKNOWN_FOREIGN_KEY_PROPERTY")
    (planned : entity.plan nullableMode = .ok plan) {member : Member}
    (inPlan : member ∈ plan.relationships) {link : Text} (linked : link ∈ member.seeAlso) :
    ∃ scalar ∈ plan.properties, scalar.name = link := by
  obtain ⟨scalars, run, rfl⟩ := plan_eq_ok_iff.mp planned
  obtain ⟨relationship, inEntity, rfl⟩ := mem_navigationMembers_iff.mp inPlan
  rw [Relationship.seeAlso_member] at linked
  split at linked
  next => exact absurd linked List.not_mem_nil
  next single =>
    obtain ⟨key, listed, rfl⟩ := List.mem_map.mp linked
    obtain ⟨property, declared, same⟩ := hasProperty_of_validate known inEntity single listed
    exact (exists_scalar_iff run).mpr ⟨property, declared, congrArg safeName same⟩

/-- Collections have no links, whatever keys they are given. -/
theorem seeAlso_of_role (planned : entity.plan nullableMode = .ok plan) {member : Member}
    (inPlan : member ∈ plan.relationships) (many : member.role = "to_many") :
    member.seeAlso = [] := by
  obtain ⟨scalars, _, rfl⟩ := plan_eq_ok_iff.mp planned
  obtain ⟨relationship, _, rfl⟩ := mem_navigationMembers_iff.mp inPlan
  rw [Relationship.role_member] at many
  rw [Relationship.seeAlso_member]
  split
  next => rfl
  next single =>
    rw [if_neg single] at many
    exact absurd many (by decide)

/-- The lines of the members are lines of the class, one level deeper. -/
theorem nested_mem_classLines (entity : Entity) {document : Bool} {member : Member}
    (inPlan : member ∈ plan.properties ++ plan.relationships) {line : Line}
    (inMember : line ∈ member.lines document) :
    line.nested ∈ entity.classLines document plan := by
  have inRegion (title : Text) {members : List Member} (listed : member ∈ members) :
      line ∈ region title (members.flatMap (Member.lines document)) :=
    List.mem_append_left _ (List.mem_cons_of_mem _
      (List.mem_flatMap.mpr ⟨member, listed, inMember⟩))
  have inBody {lines : List Line} (listed : line ∈ lines) : line.nested ∈ braced lines :=
    List.mem_append_left _ (List.mem_cons_of_mem _ (List.mem_map_of_mem listed))
  rw [classLines]
  refine List.mem_append_right _ (inBody ?_)
  cases List.mem_append.mp inPlan with
  | inl scalar =>
      have listed := inRegion "Generated Properties" scalar
      exact List.mem_append_left _ (List.mem_append_left _
        (List.mem_append_right _ (List.mem_cons_of_mem _ listed)))
  | inr navigation =>
      have listed := inRegion "Generated Relationships" navigation
      exact List.mem_append_left _ (List.mem_append_right _ (List.mem_cons_of_mem _ listed))

/-- The lines of the members are lines of the code. -/
theorem hasLine_of_mem_lines (planned : entity.plan nullableMode = .ok plan) (unit : Nat)
    (fileScoped : Bool) {document : Bool} {member : Member}
    (inPlan : member ∈ plan.properties ++ plan.relationships) {line : Line}
    (inMember : line ∈ member.lines document) {first : Point}
    (begins : line.text.toList.head? = some first) (filled : first ≠ ' ') :
    HasLine (render unit (entity.fileLines fileScoped (entity.classLines document plan)))
      line.text := by
  have inClass := entity.nested_mem_classLines inPlan inMember
  have placed := hasLine_of_mem_classLines planned unit fileScoped inClass begins filled
  exact placed

/-- Without a warning on a foreign key, the links of a class lead to scalars that are declared in
it. -/
theorem crossLinks_of_synthesize {code : Text} (run : entity.synthesize options = .ok code)
    (known : ∀ warning ∈ entity.validate.warnings,
      warning.code ≠ "UNKNOWN_FOREIGN_KEY_PROPERTY") :
    ∃ plan, entity.plan options.nullable = .ok plan ∧
      code = render options.indentSize
        (entity.fileLines options.fileScopedNamespace
          (entity.classLines options.document plan)) ∧
      plan.ResolvesLinks options.document code := by
  obtain ⟨_, plan, planned, rfl⟩ := synthesize_eq_ok_iff.mp run
  have named : ∀ member ∈ plan.relationships, ∀ link ∈ member.seeAlso,
      ∃ scalar ∈ plan.properties, scalar.name = link :=
    fun _ inPlan _ linked => exists_scalar_of_mem_seeAlso known planned inPlan linked
  have rendered : ∀ member ∈ plan.relationships, ∀ name,
      crossLink name ∈ member.lines options.document ↔
        options.document = true ∧ name ∈ member.seeAlso := by
    obtain ⟨scalars, _, rfl⟩ := plan_eq_ok_iff.mp planned
    intro member inPlan name
    obtain ⟨relationship, _, rfl⟩ := mem_navigationMembers_iff.mp inPlan
    exact relationship.crossLink_mem_lines_iff
  refine ⟨plan, planned, rfl, named, fun _ => seeAlso_of_role planned, rendered, ?_⟩
  intro member inPlan name inMember
  refine ⟨hasLine_of_mem_lines planned _ _ (List.mem_append_right _ inPlan) inMember
    (head?_crossLink name) (by decide), ?_⟩
  obtain ⟨scalar, known, same⟩ :=
    named member inPlan name ((rendered member inPlan name).mp inMember).2
  obtain ⟨first, begins, filled, _⟩ := scalar.exists_head?_declaration
  have declaration : scalar.declaration ∈ scalar.lines options.document :=
    List.mem_append_right _ List.mem_cons_self
  exact ⟨scalar, known, same,
    hasLine_of_mem_lines planned _ _ (List.mem_append_left _ known) declaration begins filled⟩

/-- An order with a foreign key named by a keyword, and with a collection whose keys nobody
knows. -/
def keyedOrder : Entity where
  entityNamespace := "Shop"
  entityClass := "Order"
  properties :=
    [{ propertyName := "Id", systemType := ⟨"int", none⟩ },
     { propertyName := "event", systemType := ⟨"int", none⟩ }]
  relationships :=
    [{ propertyName := "Occasion", primaryEntity := ⟨"Shop", "Event"⟩, properties := ["event"] },
     { propertyName := "Items", primaryEntity := ⟨"Shop", "Item"⟩, cardinality := .many,
       properties := ["OrderId"] }]

theorem crossLinks_of_synthesize_keyedOrder :
    (∀ warning ∈ keyedOrder.validate.warnings, warning.code ≠ "UNKNOWN_FOREIGN_KEY_PROPERTY") ∧
      ∃ code plan, keyedOrder.synthesize { document := true } = .ok code ∧
        keyedOrder.plan false = .ok plan ∧
        (∃ member ∈ plan.relationships, member.seeAlso = (["@event"] : List Text)) ∧
        HasLine code (crossLink "@event").text ∧
        ∃ scalar ∈ plan.properties, scalar.name = "@event" ∧
          HasLine code scalar.declaration.text := by
  have valid : keyedOrder.IsValid := by
    unfold IsValid
    decide
  have known : ∀ warning ∈ keyedOrder.validate.warnings,
      warning.code ≠ "UNKNOWN_FOREIGN_KEY_PROPERTY" := by
    have none : keyedOrder.findings = [] := by decide
    rw [Diagnostics.warnings, validate, Diagnostics.ofFindings, none]
    exact fun _ listed => absurd listed List.not_mem_nil
  obtain ⟨code, run⟩ :=
    exists_synthesize_of_isQualifiedName { document := true } valid (by decide)
  obtain ⟨plan, planned, _, resolves⟩ := crossLinks_of_synthesize run known
  have linked : ∃ member ∈ plan.relationships, member.seeAlso = ["@event"] := by
    obtain ⟨_, _, rfl⟩ := plan_eq_ok_iff.mp planned
    exact ⟨_, mem_navigationMembers_iff.mpr ⟨_, List.mem_cons_self, rfl⟩, by decide⟩
  obtain ⟨member, inPlan, same⟩ := linked
  have rendered : crossLink ("@event" : Text) ∈ member.lines true :=
    (resolves.rendered member inPlan "@event").mpr ⟨rfl, same ▸ List.mem_cons_self⟩
  exact ⟨known, code, plan, run, planned, ⟨member, inPlan, same⟩,
    resolves.declared member inPlan "@event" rendered⟩

end Entity

end EntityForge
