import EntityForge.Proofs.Identifier.Alphabet

/-!
# Legal identifiers

Every text becomes one of two forms: a word of identifier characters that is not reserved, or a
reserved keyword behind the verbatim sign.  A text that has one of these forms already is left as it
is, so that the legal names are the fixed points as well as the results.
-/

namespace EntityForge.Identifier

open EntityForge.Text

/-- Whether a name is a word of identifier characters, of which the first may open one. -/
def IsIdentifier (name : Text) : Prop :=
  ∃ first rest, name.toList = first :: rest ∧ isIdentifierStart first = true ∧
    ∀ character ∈ rest, isIdentifierPart character = true

/-- Whether a name is an identifier that is not reserved, or an escaped keyword. -/
def IsLegal (name : Text) : Prop :=
  IsIdentifier name ∧ isKeyword name = false ∨
    ∃ keyword, isKeyword keyword = true ∧ name = "@" ++ keyword

theorem isIdentifier_ofList_withLegalStart {word : List Point}
    (legal : ∀ character ∈ word, isIdentifierPart character = true) :
    IsIdentifier (Text.ofList (withLegalStart word)) := by
  have underscore : isIdentifierStart '_' = true := by decide
  rw [IsIdentifier, Text.toList_ofList]
  cases word with
  | nil => exact ⟨'_', [], rfl, underscore, fun _ none => absurd none List.not_mem_nil⟩
  | cons first rest =>
      rw [withLegalStart]
      split
      next start => exact ⟨first, rest, rfl, start, (List.forall_mem_cons.mp legal).2⟩
      next => exact ⟨'_', first :: rest, rfl, underscore, legal⟩

theorem isIdentifier_bareName (name : Text) : IsIdentifier (Text.ofList (bareName name)) := by
  refine isIdentifier_ofList_withLegalStart fun character member => ?_
  obtain ⟨original, _, rfl⟩ := List.mem_map.mp member
  exact isIdentifierPart_legalPart original

/-- The name made from any text is legal. -/
theorem isLegal_safeName (name : Text) : IsLegal (safeName name) := by
  have shape : safeName name = Text.ofList (escapeKeyword (bareName name)) := by
    rw [← toList_safeName, Text.ofList_toList]
  rw [shape, escapeKeyword]
  split
  next reserved => exact .inr ⟨_, reserved, by rw [Text.ofList_cons]; rfl⟩
  next free => exact .inl ⟨isIdentifier_bareName name, Bool.eq_false_iff.mpr free⟩

/-- Names that differ as legal names differ also without the verbatim sign. -/
theorem nodup_withoutVerbatim_iff {raw : List Text} :
    ((raw.map safeName).map withoutVerbatim).Nodup ↔ (raw.map safeName).Nodup := by
  simp only [List.Nodup, List.pairwise_map, ne_eq, withoutVerbatim_safeName_inj]

/-! ## Legal names stay -/

theorem legalPart_of_part {character : Point} (part : isIdentifierPart character = true) :
    legalPart character = character := by
  rw [legalPart, if_pos part]

theorem withLegalStart_of_start {first : Point} (start : isIdentifierStart first = true)
    (rest : List Point) : withLegalStart (first :: rest) = first :: rest := by
  rw [withLegalStart, if_pos start]

/-- Of the stages before the escape only the first, which drops a verbatim sign, changes anything
about an identifier behind that sign. -/
theorem withLegalStart_of_isIdentifier {name : Text} (identifier : IsIdentifier name) :
    withLegalStart (name.toList.map legalPart) = name.toList := by
  obtain ⟨first, rest, shape, start, parts⟩ := identifier
  have kept : rest.map legalPart = rest.map id :=
    List.map_congr_left fun character member => legalPart_of_part (parts character member)
  rw [shape, List.map_cons, kept, List.map_id, legalPart_of_part (isIdentifierPart_of_start start),
    withLegalStart_of_start start]

/-- An identifier does not begin with the verbatim sign. -/
theorem dropVerbatim_of_isIdentifier {name : Text} (identifier : IsIdentifier name) :
    dropVerbatim name.toList = name.toList := by
  obtain ⟨first, rest, shape, start, _⟩ := identifier
  have noSign : first ≠ verbatimSign := by
    rintro rfl
    exact absurd start (by decide)
  rw [shape, dropVerbatim, if_neg noSign]

theorem isIdentifier_of_isKeyword {word : Text} (reserved : isKeyword word = true) :
    IsIdentifier word := by
  have spelled : keywords.all (fun keyword => (keyword.toList.take 1).any isIdentifierStart &&
      (keyword.toList.drop 1).all isIdentifierPart) = true := by
    decide
  have listed : word ∈ keywords := List.contains_iff_mem.mp reserved
  have legal := List.all_eq_true.mp spelled word listed
  rw [Bool.and_eq_true, List.all_eq_true] at legal
  rw [IsIdentifier]
  cases shape : word.toList with
  | nil =>
      rw [shape] at legal
      cases legal.1
  | cons first rest =>
      rw [shape] at legal
      exact ⟨first, rest, rfl, by simpa using legal.1, legal.2⟩

theorem bareName_of_isIdentifier {name : Text} (identifier : IsIdentifier name) :
    bareName name = name.toList := by
  rw [bareName, dropVerbatim_of_isIdentifier identifier, withLegalStart_of_isIdentifier identifier]

theorem bareName_verbatim {name : Text} (identifier : IsIdentifier name) :
    bareName ("@" ++ name) = name.toList := by
  have behindSign : dropVerbatim ("@" ++ name).toList = name.toList := by
    rw [Text.toList_append]
    rfl
  rw [bareName, behindSign, withLegalStart_of_isIdentifier identifier]

/-- A legal name is made from itself. -/
theorem safeName_of_isLegal {name : Text} (legal : IsLegal name) : safeName name = name := by
  rw [← Text.toList_inj, toList_safeName, escapeKeyword]
  rcases legal with ⟨identifier, free⟩ | ⟨keyword, reserved, rfl⟩
  · rw [bareName_of_isIdentifier identifier, Text.ofList_toList, free, if_neg Bool.false_ne_true]
  · rw [bareName_verbatim (isIdentifier_of_isKeyword reserved), Text.ofList_toList,
      if_pos reserved, Text.toList_append]
    rfl

/-! ## Texts of one legal name -/

/-- Characters that are kept are found again where no underscore stands for another one. -/
theorem map_legalPart_eq_iff {text word : List Point}
    (parts : ∀ character ∈ word, isIdentifierPart character = true) (noFill : .scalar '_' ∉ word) :
    text.map legalPart = word ↔ text = word := by
  constructor
  · rintro rfl
    have kept : ∀ character ∈ text, character = legalPart character := by
      intro character member
      rw [legalPart]
      split
      next => rfl
      next foreign =>
        refine absurd (List.mem_map.mpr ⟨character, member, ?_⟩) noFill
        rw [legalPart, if_neg foreign]
    rw [List.map_congr_left fun character member => (kept character member).symm]
    exact (List.map_id' text).symm
  · rintro rfl
    rw [List.map_congr_left fun character member => legalPart_of_part (parts character member)]
    exact List.map_id' text

theorem eq_of_withLegalStart_eq {word start : List Point} (same : withLegalStart word = start)
    (noFill : .scalar '_' ∉ start) : word = start := by
  rw [← same] at noFill ⊢
  cases word with
  | nil =>
      rw [withLegalStart] at noFill
      exact absurd List.mem_cons_self noFill
  | cons first rest =>
      rw [withLegalStart] at noFill ⊢
      split
      next => rfl
      next noStart =>
        rw [if_neg noStart] at noFill
        exact absurd List.mem_cons_self noFill

/-- A word without underscores that is no keyword is made from itself and from itself behind the
verbatim sign, and from nothing else. -/
theorem safeName_eq_iff {name word : Text} (identifier : IsIdentifier word)
    (free : isKeyword word = false) (noFill : .scalar '_' ∉ word.toList) :
    safeName name = word ↔ name = word ∨ name = "@" ++ word := by
  constructor
  · intro same
    have bare : bareName name = word.toList := by
      rw [← toList_withoutVerbatim_safeName, same, withoutVerbatim, Text.toList_ofList,
        dropVerbatim_of_isIdentifier identifier]
    have kept : (dropVerbatim name.toList).map legalPart = word.toList := by
      rw [bareName] at bare
      exact eq_of_withLegalStart_eq bare noFill
    obtain ⟨first, rest, shape, start, others⟩ := identifier
    have parts : ∀ character ∈ word.toList, isIdentifierPart character = true := by
      rw [shape]
      exact List.forall_mem_cons.mpr ⟨isIdentifierPart_of_start start, others⟩
    rw [map_legalPart_eq_iff parts noFill] at kept
    simp only [← Text.toList_inj, Text.toList_append]
    cases text : name.toList with
    | nil =>
        rw [text] at kept
        exact .inl kept
    | cons sign behind =>
        rw [text, dropVerbatim] at kept
        split at kept
        next isSign => exact .inr (by rw [isSign, kept]; rfl)
        next => exact .inl kept
  · rintro (rfl | rfl)
    · exact safeName_of_isLegal (.inl ⟨identifier, free⟩)
    · rw [← Text.toList_inj, toList_safeName, bareName_verbatim identifier, escapeKeyword,
        Text.ofList_toList, free, if_neg Bool.false_ne_true]

/-- Making names legal is a projection onto the legal names: every result is an identifier that is
not reserved or an escaped keyword, the names of these two forms are just those that stay as they
are, so that a second run changes nothing, and results are told apart without the verbatim sign. -/
theorem safeName_projection (name : Text) :
    IsLegal (safeName name) ∧
    (safeName name = name ↔ IsLegal name) ∧
    safeName (safeName name) = safeName name ∧
    ∀ other, withoutVerbatim (safeName name) = withoutVerbatim (safeName other) ↔
      safeName name = safeName other := by
  have fixed : safeName name = name ↔ IsLegal name :=
    ⟨fun same => same ▸ isLegal_safeName name, safeName_of_isLegal⟩
  exact ⟨isLegal_safeName name, fixed, safeName_of_isLegal (isLegal_safeName name),
    fun _ => withoutVerbatim_safeName_inj⟩

end EntityForge.Identifier
