import EntityForge.Proofs.Code.Lines
import EntityForge.Proofs.Code.Synthesis
import EntityForge.Proofs.Identifier.Alphabet
import EntityForge.Proofs.Layout.Comment
import EntityForge.Proofs.TypeName.Alphabet

/-!
# Declarations on one line

Whatever characters the raw names and types of an entity hold, the parts of its members have no
line feeds, so that each declaration is a line of its own, and one of code.
-/

namespace EntityForge

open EntityForge.Identifier
open EntityForge.Layout

theorem newline_notMem_safeName (name : Text) : .scalar '\n' ∉ (safeName name).toList :=
  notMem_safeName (by decide) name

theorem newline_notMem_safeQualifiedName (name : Text) :
    .scalar '\n' ∉ (safeQualifiedName name).toList :=
  notMem_safeQualifiedName (by decide) (by decide) name

/-- The written name of a target has no other characters than legal names, and dots. -/
theorem EntityReference.notMem_qualifiedName {character : Point}
    (foreign : isForeign character = true) (noDot : character ≠ '.')
    (reference : EntityReference) : character ∉ reference.qualifiedName.toList := by
  have name := notMem_safeName foreign reference.entityClass
  have qualifier := notMem_safeQualifiedName foreign noDot reference.entityNamespace
  rw [qualifiedName]
  split
  · exact name
  · simp [name, qualifier, noDot]

theorem EntityReference.newline_notMem_qualifiedName (reference : EntityReference) :
    .scalar '\n' ∉ reference.qualifiedName.toList :=
  notMem_qualifiedName (by decide) (by decide) reference

theorem TypeName.newline_notMem_print {text : Text} {tree : TypeTree}
    (read : TypeName.read text = .ok tree) : .scalar '\n' ∉ tree.print.toList := by
  intro member
  exact absurd (isTypeCharacter_of_mem_print read _ member) (by decide)

/-- A member whose parts have no line feeds. -/
structure Member.IsSingle (member : Member) : Prop where
  name : .scalar '\n' ∉ member.name.toList
  typeName : .scalar '\n' ∉ member.typeName.toList
  seeAlso : ∀ link ∈ member.seeAlso, .scalar '\n' ∉ link.toList

theorem Relationship.isSingle_member (relationship : Relationship) (nullableMode : Bool) :
    (relationship.member nullableMode).IsSingle := by
  have name := newline_notMem_safeName relationship.propertyName
  have target := relationship.primaryEntity.newline_notMem_qualifiedName
  have links : ∀ link ∈ relationship.properties.map safeName, .scalar '\n' ∉ link.toList :=
    List.forall_mem_map.mpr fun raw _ => newline_notMem_safeName raw
  rw [Relationship.member]
  cases relationship.cardinality with
  | many =>
      refine ⟨name, ?_, fun _ none => absurd none List.not_mem_nil⟩
      simp [Member.typeName, collection, target]
  | one | zeroOrOne => exact ⟨name, target, links⟩

theorem Property.isSingle_member {property : Property} {nullableMode : Bool} {member : Member}
    (run : property.member nullableMode = .ok member) : member.IsSingle := by
  obtain ⟨type, projected, rfl⟩ := Property.member_eq_ok_iff.mp run
  refine ⟨newline_notMem_safeName _, ?_, fun _ none => absurd none List.not_mem_nil⟩
  have base := TypeName.newline_notMem_print (SystemType.read_of_project projected)
  rw [Member.typeName, ProjectedType.printed]
  cases type.isMarked <;> simp [base, nullableMarker]

namespace Member

/-- There is only one initializer. -/
theorem eq_nonNullDefault_of_initializer {member : Member} {expression : Text}
    (found : member.initializer = some expression) : expression = nonNullDefault := by
  cases member with
  | scalar name type column =>
      rw [initializer, ProjectedType.initializer] at found
      split at found
      · exact (Option.some.inj found).symm
      · cases found
  | toOne name target nullness seeAlso =>
      cases nullness with
      | nonNull => exact (Option.some.inj found).symm
      | unstated | nullable => cases found
  | toMany name target => cases found
  | identityAdapter name type interface getter => cases found

/-- The texts that stand in declarations besides the names and types of members. -/
def declarationTexts : List Text :=
  [ "", " ", "[" ++ attrAttribute ++ "]", "[" ++ hasOneAttribute ++ "]",
    "[" ++ hasManyAttribute ++ "]", "public", "virtual", nullableMarker, "\x7b get; set; \x7d",
    " = " ++ nonNullDefault ++ ";" ]

section

variable (holds : Text → Prop) {member : Member}

theorem attribute_of_parts (fixed : ∀ text ∈ declarationTexts, holds text) :
    ∀ word ∈ member.attributeName.toList.map fun name : Text => "[" ++ name ++ "]", holds word := by
  refine List.forall_mem_map.mpr fun name found => fixed _ ?_
  cases member with
  | scalar | toOne | toMany =>
      cases Option.mem_toList.mp found
      simp [declarationTexts]
  | identityAdapter => cases Option.mem_toList.mp found

theorem assignment_of_parts (fixed : ∀ text ∈ declarationTexts, holds text) :
    holds member.assignment := by
  rw [assignment]
  split
  next expression found =>
    rw [eq_nonNullDefault_of_initializer found]
    exact fixed _ (by simp [declarationTexts])
  next => exact fixed _ (by simp [declarationTexts])

/-- What is true of the name and the type of a member and of the fixed texts, and stays true of
joined texts, is true of its declaration. -/
theorem declaration_of_parts
    (joined : ∀ left right, holds left → holds right → holds (left ++ right))
    (fixed : ∀ text ∈ declarationTexts, holds text) (name : holds member.name)
    (typeName : holds member.typeName) : holds member.declaration.text := by
  have declaredType : holds member.declaredType := by
    rw [Member.declaredType]
    split
    · exact joined _ _ typeName (fixed _ (by simp [declarationTexts]))
    · exact joined _ _ typeName (fixed _ (by simp [declarationTexts]))
  have modifiers :
      ∀ word ∈ (if member.isVirtual then ["public", "virtual"] else ["public"] : List Text),
        holds word := by
    have visible := fixed "public" (by simp [declarationTexts])
    have overridable := fixed "virtual" (by simp [declarationTexts])
    cases member.isVirtual with
    | true => exact List.forall_mem_cons.mpr ⟨visible, List.forall_mem_singleton.mpr overridable⟩
    | false => exact List.forall_mem_singleton.mpr visible
  have words : ∀ word ∈ member.words, holds word := by
    simp only [Member.words, List.forall_mem_append, List.forall_mem_cons]
    exact ⟨⟨attribute_of_parts holds fixed, modifiers⟩, declaredType, name,
      fixed _ (by simp [declarationTexts]), fun _ none => absurd none List.not_mem_nil⟩
  have empty := fixed "" (by simp [declarationTexts])
  have space := fixed " " (by simp [declarationTexts])
  exact joined _ _ (Text.holds_intercalate joined empty space words)
    (assignment_of_parts holds fixed)

end

theorem isSingle_declaration {member : Member} (single : member.IsSingle) :
    member.declaration.IsSingle := by
  have joined (left right : Text) (first : .scalar '\n' ∉ left.toList)
      (second : .scalar '\n' ∉ right.toList) : .scalar '\n' ∉ (left ++ right).toList := by
    rw [Text.toList_append, List.mem_append, not_or]
    exact ⟨first, second⟩
  exact declaration_of_parts (fun text => .scalar '\n' ∉ text.toList) joined (by decide) single.name
    single.typeName

/-- A declaration begins with its attribute or with its first modifier. -/
theorem exists_words (member : Member) :
    ∃ word others first rest, member.words = word :: others ∧
      word.toList = first :: rest ∧ first ≠ ' ' ∧ first ≠ '/' := by
  cases member with
  | scalar | toOne | toMany =>
      exact ⟨_, _, '[', _, rfl, by rw [Text.toList_append, Text.toList_append]; rfl,
        by decide, by decide⟩
  | identityAdapter => exact ⟨_, _, 'p', _, rfl, rfl, by decide, by decide⟩

theorem exists_head?_declaration (member : Member) :
    ∃ first, member.declaration.text.toList.head? = some first ∧ first ≠ ' ' ∧ first ≠ '/' := by
  obtain ⟨word, others, first, rest, shape, start, notSpace, notSlash⟩ := member.exists_words
  obtain ⟨more, joined⟩ := Text.exists_toList_intercalate start " " others
  refine ⟨first, ?_, notSpace, notSlash⟩
  rw [declaration, Line.flat, Text.toList_append, shape, joined]
  rfl

theorem isComment_declaration (member : Member) : member.declaration.isComment = false := by
  obtain ⟨first, begins, notSpace, notSlash⟩ := member.exists_head?_declaration
  exact Line.isComment_eq_false begins notSpace notSlash

end Member

end EntityForge
