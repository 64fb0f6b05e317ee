import EntityForge.Identifier
import EntityForge.Proofs.Text.Lines

/-!
# The characters of legal identifiers

Whatever text a name is made from, it consists of identifier characters and at most one verbatim
sign in front, so that no character with a meaning of its own in generated code can stand in it.
Since only keywords carry the sign, a legal name is known again without it.
-/

namespace EntityForge.Identifier

open EntityForge.Text

/-- The characters of a legal identifier before a keyword is escaped. -/
def bareName (name : Text) : List Point :=
  withLegalStart ((dropVerbatim name.toList).map legalPart)

theorem toList_safeName (name : Text) :
    (safeName name).toList = escapeKeyword (bareName name) := by
  rw [safeName, Text.toList_ofList, bareName]

theorem isIdentifierPart_legalPart (character : Point) :
    isIdentifierPart (legalPart character) = true := by
  rw [legalPart]
  split
  next part => exact part
  next => decide

theorem isIdentifierPart_of_mem_withLegalStart {word : List Point}
    (legal : ∀ character ∈ word, isIdentifierPart character = true)
    {character : Point} (member : character ∈ withLegalStart word) :
    isIdentifierPart character = true := by
  have underscore : isIdentifierPart '_' = true := by decide
  cases word with
  | nil =>
      rw [withLegalStart, List.mem_singleton] at member
      exact member ▸ underscore
  | cons first rest =>
      rw [withLegalStart] at member
      split at member
      next => exact legal character member
      next =>
        rcases List.mem_cons.mp member with added | kept
        · exact added ▸ underscore
        · exact legal character kept

theorem isIdentifierPart_of_mem_bareName {name : Text} {character : Point}
    (member : character ∈ bareName name) : isIdentifierPart character = true := by
  apply isIdentifierPart_of_mem_withLegalStart _ member
  intro kept inMap
  obtain ⟨original, _, rfl⟩ := List.mem_map.mp inMap
  exact isIdentifierPart_legalPart original

theorem bareName_ne_nil (name : Text) : bareName name ≠ [] := by
  rw [bareName]
  cases (dropVerbatim name.toList).map legalPart with
  | nil => exact List.cons_ne_nil _ _
  | cons first rest =>
      rw [withLegalStart]
      split <;> exact List.cons_ne_nil _ _

theorem verbatimSign_notMem_bareName (name : Text) : verbatimSign ∉ bareName name := by
  intro member
  have part := isIdentifierPart_of_mem_bareName member
  exact absurd part (by decide)

theorem mem_escapeKeyword {word : List Point} {character : Point}
    (member : character ∈ escapeKeyword word) :
    character = verbatimSign ∨ character ∈ word := by
  rw [escapeKeyword] at member
  split at member
  next => exact List.mem_cons.mp member
  next => exact Or.inr member

theorem isIdentifierPart_of_mem_safeName {name : Text} {character : Point}
    (member : character ∈ (safeName name).toList) :
    isIdentifierPart character = true ∨ character = verbatimSign := by
  rw [toList_safeName] at member
  rcases mem_escapeKeyword member with sign | bare
  · exact Or.inr sign
  · exact Or.inl (isIdentifierPart_of_mem_bareName bare)

/-- A character that is neither an identifier character nor the verbatim sign. -/
def isForeign (character : Point) : Bool :=
  !isIdentifierPart character && character != verbatimSign

theorem notMem_safeName {character : Point} (foreign : isForeign character = true)
    (name : Text) : character ∉ (safeName name).toList := by
  intro member
  simp only [isForeign, Bool.and_eq_true, Bool.not_eq_true', bne_iff_ne] at foreign
  rcases isIdentifierPart_of_mem_safeName member with part | sign
  · rw [foreign.1] at part
    cases part
  · exact foreign.2 sign

theorem toList_safeName_ne_nil (name : Text) : (safeName name).toList ≠ [] := by
  rw [toList_safeName, escapeKeyword]
  split
  · exact List.cons_ne_nil _ _
  · exact bareName_ne_nil name

/-- The first character of a legal name is none that is foreign to names. -/
theorem exists_toList_safeName (name : Text) :
    ∃ first rest, (safeName name).toList = first :: rest ∧ isForeign first = false := by
  obtain ⟨first, rest, shape⟩ := List.exists_cons_of_ne_nil (toList_safeName_ne_nil name)
  refine ⟨first, rest, shape, ?_⟩
  cases foreign : isForeign first with
  | false => rfl
  | true =>
      have member : first ∈ (safeName name).toList := shape ▸ List.mem_cons_self
      exact absurd member (notMem_safeName foreign name)

/-! ## Dotted names -/

theorem notMem_safeQualifiedName {character : Point} (foreign : isForeign character = true)
    (noDot : character ≠ '.') (name : Text) :
    character ∉ (safeQualifiedName name).toList := by
  apply notMem_toList_intercalate
  · simpa using noDot
  · intro segment member
    obtain ⟨piece, _, rfl⟩ := List.mem_map.mp member
    exact notMem_safeName foreign piece

/-! ## Names without the verbatim sign -/

theorem dropVerbatim_escapeKeyword {word : List Point} (absent : verbatimSign ∉ word) :
    dropVerbatim (escapeKeyword word) = word := by
  rw [escapeKeyword]
  split
  · rw [dropVerbatim, if_pos rfl]
  · cases word with
    | nil => rfl
    | cons first rest =>
        simp only [List.mem_cons, not_or] at absent
        rw [dropVerbatim, if_neg (Ne.symm absent.1)]

theorem toList_withoutVerbatim_safeName (name : Text) :
    (withoutVerbatim (safeName name)).toList = bareName name := by
  rw [withoutVerbatim, Text.toList_ofList, toList_safeName,
    dropVerbatim_escapeKeyword (verbatimSign_notMem_bareName name)]

/-- Two legal names are equal if they are equal without the verbatim sign. -/
theorem withoutVerbatim_safeName_inj {left right : Text} :
    withoutVerbatim (safeName left) = withoutVerbatim (safeName right) ↔
      safeName left = safeName right := by
  constructor
  · intro equal
    have bare : bareName left = bareName right := by
      rw [← toList_withoutVerbatim_safeName, equal, toList_withoutVerbatim_safeName]
    rw [← Text.toList_inj, toList_safeName, toList_safeName, bare]
  · intro equal
    rw [equal]

end EntityForge.Identifier
