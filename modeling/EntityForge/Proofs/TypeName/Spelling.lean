import EntityForge.Proofs.Text.Trim
import EntityForge.Proofs.TypeName.Alphabet

/-!
# The grammar of type names

Which texts spell which type expression, told without a reader: a dotted name, an element followed
by square brackets, or a head with a list of arguments between angle brackets.  Blanks may stand
around every part and behind the head, and nowhere else.
-/

namespace EntityForge.TypeName

open EntityForge.Text

/-- Whether a text is identifiers of ASCII characters, joined by dots. -/
def IsDottedName (text : List Point) : Prop :=
  ∃ words, words ≠ [] ∧ (∀ word ∈ words, isSimpleName word = true) ∧
    text = [.scalar '.'].intercalate words

/-- Whether a text spells a type expression.  The application of a type that has a mark of its own,
the nullable marker, is no type expression. -/
inductive Spells : List Point → TypeTree → Prop where
  | named {text name : List Point} :
      trim text = name → IsDottedName name → Spells text (.named (Text.ofList name))
  | array {text element : List Point} {tree : TypeTree} :
      trim text = element ++ [.scalar '[', .scalar ']'] → Spells element tree →
      Spells text (.array tree)
  | generic {text head blanks : List Point} {arguments : List (List Point)}
      {trees : List TypeTree} :
      trim text =
        head ++ blanks ++ .scalar '<' :: [.scalar ','].intercalate arguments ++ [.scalar '>'] →
      IsDottedName head → AreBlank blanks → ¬("System.Nullable<" : Text).toList <+: trim text →
      arguments ≠ [] → arguments.length = trees.length →
      (∀ argument tree, (argument, tree) ∈ arguments.zip trees → Spells argument tree) →
      Spells text (.generic (Text.ofList head) trees)

/-- Only the part between the blanks around a text counts. -/
theorem Spells.of_trim_eq {left right : List Point} {tree : TypeTree} (spells : Spells left tree)
    (same : trim left = trim right) : Spells right tree := by
  cases spells with
  | named shape dotted => exact .named (same ▸ shape) dotted
  | array shape element => exact .array (same ▸ shape) element
  | generic shape dotted blank notNullable nonempty lengths arguments =>
      exact .generic (same ▸ shape) dotted blank (same ▸ notNullable) nonempty lengths arguments

/-- Whether an expression has dotted names only, and arguments in each list of arguments. -/
inductive IsWellFormed : TypeTree → Prop where
  | named {name : List Point} : IsDottedName name → IsWellFormed (.named (Text.ofList name))
  | array {element : TypeTree} : IsWellFormed element → IsWellFormed (.array element)
  | generic {head : List Point} {arguments : List TypeTree} :
      IsDottedName head → arguments ≠ [] → (∀ argument ∈ arguments, IsWellFormed argument) →
      IsWellFormed (.generic (Text.ofList head) arguments)

/-- What a text spells is well-formed. -/
theorem Spells.isWellFormed {text : List Point} {tree : TypeTree} (spells : Spells text tree) :
    IsWellFormed tree := by
  induction spells with
  | named _ dotted => exact .named dotted
  | array _ _ ih => exact .array ih
  | generic _ dotted _ _ nonempty lengths _ ih =>
      refine .generic dotted ?_ (forall_of_forall_zip lengths ih)
      rintro rfl
      exact nonempty (List.eq_nil_of_length_eq_zero lengths)

/-! ## Dotted names -/

theorem isQualifiedName_iff {text : List Point} :
    isQualifiedName text = true ↔ IsDottedName text := by
  constructor
  · intro qualified
    exact ⟨splitOn '.' text, splitOn_ne_nil '.' text, List.all_eq_true.mp qualified,
      (intercalate_splitOn '.' text).symm⟩
  · rintro ⟨words, nonempty, simple, rfl⟩
    have noDots : ∀ word ∈ words, .scalar '.' ∉ word := by
      intro word member inWord
      exact absurd (isNamePart_of_mem_simpleName (simple word member) inWord) (by decide)
    rw [isQualifiedName, splitOn_intercalate nonempty noDots]
    exact List.all_eq_true.mpr simple

/-- A character that is no part of a dotted name. -/
theorem IsDottedName.notMem {text : List Point} (dotted : IsDottedName text) {sign : Point}
    (noPart : isNamePart sign = false) (noDot : sign ≠ '.') : sign ∉ text :=
  sign_notMem_qualifiedName (isQualifiedName_iff.mpr dotted) noPart noDot

/-- The characters of names lie between the blank ones. -/
theorem isBlank_of_isNamePart {character : Point} (part : isNamePart character = true) :
    isBlank character = false := by
  have bounds : 0x30 ≤ character.toNat ∧ character.toNat ≤ 0x7a := by
    cases character with
    | surrogate half => simp [isNamePart, Point.isAlpha, Point.isDigit] at part
    | scalar character =>
        rw [isNamePart, Bool.or_eq_true, beq_iff_eq, Point.scalar.injEq] at part
        rcases part with alphanumeric | rfl
        · delta Point.isAlpha Point.isDigit at alphanumeric
          delta Char.isAlpha Char.isUpper Char.isLower Char.isDigit at alphanumeric
          simp only [Bool.or_eq_true, Bool.and_eq_true, decide_eq_true_eq, ge_iff_le,
            UInt32.le_iff_toNat_le] at alphanumeric
          rcases alphanumeric with (⟨low, high⟩ | ⟨low, high⟩) | ⟨low, high⟩
          · exact ⟨le_trans (by decide) low, le_trans high (by decide)⟩
          · exact ⟨le_trans (by decide) low, le_trans high (by decide)⟩
          · exact ⟨le_trans (by decide) low, le_trans high (by decide)⟩
        · decide
  simp [isBlank, inRanges, blankRanges]
  omega

theorem IsDottedName.isBlank_eq_false {text : List Point} (dotted : IsDottedName text)
    {character : Point} (member : character ∈ text) : isBlank character = false := by
  rcases mem_qualifiedName (isQualifiedName_iff.mpr dotted) member with part | rfl
  · exact isBlank_of_isNamePart part
  · decide

theorem IsDottedName.isTrimmed {text : List Point} (dotted : IsDottedName text) :
    IsTrimmed text :=
  isTrimmed_of_forall fun _ => dotted.isBlank_eq_false

theorem IsDottedName.ne_nil {text : List Point} (dotted : IsDottedName text) : text ≠ [] := by
  have qualified := isQualifiedName_iff.mpr dotted
  rintro rfl
  cases qualified

theorem IsDottedName.aliasOf {name : List Point} (dotted : IsDottedName name) :
    IsDottedName (aliasOf (Text.ofList name)).toList := by
  have each : ∀ entry ∈ aliases, isQualifiedName entry.2.toList = true := by decide
  rw [← isQualifiedName_iff] at dotted ⊢
  refine holds_aliasOf (fun word => isQualifiedName word.toList = true) ?_ each
  rwa [Text.toList_ofList]

end EntityForge.TypeName
