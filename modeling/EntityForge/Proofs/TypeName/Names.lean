import EntityForge.Proofs.TypeName.Canonical

/-!
# The names of a type expression

The names that a text mentions are its longest runs of letters, digits, underscores and dots.  They
are listed here without reading the text as an expression, each with whether arguments follow it.
For a text that spells an expression the list is that of the expression, from left to right; and
printing the expression changes nothing about the list except that built-in names give way to their
aliases where they stand alone.
-/

namespace EntityForge

namespace TypeName

open EntityForge.Text

/-- A name that a text mentions. -/
structure NameUse where
  name : Text
  /-- Whether a list of arguments follows the name. -/
  isApplied : Bool
  deriving DecidableEq, Repr

/-- The characters that dotted names are made of. -/
def isWordPart (character : Point) : Bool :=
  isNamePart character || character == .scalar '.'

/-- Whether an opening bracket is the first visible character of a text. -/
def opensArguments (text : List Point) : Bool :=
  (text.dropWhile isBlank).head? == some (.scalar '<')

/-- The use of a word, given in reverse, in front of a text.  Without characters there is none. -/
def useBefore (word text : List Point) : List NameUse :=
  if word.isEmpty then [] else [⟨Text.ofList word.reverse, opensArguments text⟩]

/-- The names of a text behind the beginning of a word, which is given in reverse. -/
def usesFrom (word : List Point) : List Point → List NameUse
  | [] => useBefore word []
  | character :: rest =>
      if isWordPart character then usesFrom (character :: word) rest
      else useBefore word (character :: rest) ++ usesFrom [] rest

/-- The names that a text mentions, in their order. -/
def nameUses (text : List Point) : List NameUse :=
  usesFrom [] text

example : nameUses ("A.B <int[], C>" : Text).toList =
    [⟨"A.B", true⟩, ⟨"int", false⟩, ⟨"C", false⟩] := by
  decide

end TypeName

namespace TypeTree

open EntityForge.TypeName

/-- The names of a type expression, from left to right. -/
def nameUses : TypeTree → List NameUse
  | .named name => [⟨name, false⟩]
  | .array element => element.nameUses
  | .generic head arguments => ⟨head, true⟩ :: (arguments.map nameUses).flatten

/-- The type expression with aliases in place of the built-in names that have one. -/
def aliased : TypeTree → TypeTree
  | .named name => .named (aliasOf name)
  | .array element => .array element.aliased
  | .generic head arguments => .generic head (arguments.map aliased)

end TypeTree

/-- A name as it is printed: a built-in name gives way to its alias unless it is applied. -/
def TypeName.NameUse.aliased (use : TypeName.NameUse) : TypeName.NameUse :=
  if use.isApplied then use else { use with name := TypeName.aliasOf use.name }

namespace TypeName

open EntityForge.Text

/-! ## Words -/

theorem isWordPart_of_isBlank {character : Point} (blank : isBlank character = true) :
    isWordPart character = false := by
  rw [isWordPart, Bool.or_eq_false_iff]
  constructor
  · by_contra part
    rw [Bool.not_eq_false] at part
    cases blank.symm.trans (isBlank_of_isNamePart part)
  · rw [beq_eq_false_iff_ne]
    rintro rfl
    exact absurd blank (by decide)

theorem IsDottedName.isWordPart {name : List Point} (dotted : IsDottedName name) :
    ∀ character ∈ name, isWordPart character = true := by
  intro character member
  rw [TypeName.isWordPart, Bool.or_eq_true, beq_iff_eq]
  exact mem_qualifiedName (isQualifiedName_iff.mpr dotted) member

theorem usesFrom_sign {sign : Point} (noPart : isWordPart sign = false) (word rest : List Point) :
    usesFrom word (sign :: rest) = useBefore word (sign :: rest) ++ usesFrom [] rest := by
  rw [usesFrom, noPart, if_neg Bool.false_ne_true]

theorem usesFrom_nil_sign {sign : Point} (noPart : isWordPart sign = false) (rest : List Point) :
    usesFrom [] (sign :: rest) = usesFrom [] rest :=
  usesFrom_sign noPart [] rest

theorem usesFrom_append_of_word {part : List Point}
    (parts : ∀ character ∈ part, isWordPart character = true) (word rest : List Point) :
    usesFrom word (part ++ rest) = usesFrom (part.reverse ++ word) rest := by
  induction part generalizing word with
  | nil => rfl
  | cons character more ih =>
      rw [List.forall_mem_cons] at parts
      rw [List.cons_append, usesFrom, if_pos parts.1, ih parts.2, List.reverse_cons,
        List.append_assoc, List.singleton_append]

theorem usesFrom_append_of_blank {blanks : List Point} (blank : AreBlank blanks)
    (rest : List Point) : usesFrom [] (blanks ++ rest) = usesFrom [] rest := by
  induction blanks with
  | nil => rfl
  | cons character more ih =>
      have here := isWordPart_of_isBlank (blank character List.mem_cons_self)
      have later : AreBlank more := fun other member => blank other (List.mem_cons_of_mem _ member)
      rw [List.cons_append, usesFrom_nil_sign here, ih later]

/-- A name in front of anything but a further part of it is used there. -/
theorem usesFrom_name {name rest : List Point} (dotted : IsDottedName name)
    (ends : ∀ character, rest.head? = some character → isWordPart character = false) :
    usesFrom [] (name ++ rest) =
      ⟨Text.ofList name, opensArguments rest⟩ :: usesFrom [] rest := by
  have used : useBefore name.reverse rest = [⟨Text.ofList name, opensArguments rest⟩] := by
    rw [useBefore, if_neg (by simpa using dotted.ne_nil), List.reverse_reverse]
  rw [usesFrom_append_of_word dotted.isWordPart, List.append_nil]
  cases rest with
  | nil => exact used
  | cons character more =>
      have noPart := ends character rfl
      rw [usesFrom_sign noPart, used, usesFrom_nil_sign noPart, List.singleton_append]

/-! ## Texts with names -/

/-- Whether neither a name nor a list of arguments goes on with a text. -/
def EndsName (text : List Point) : Prop :=
  ∀ character, (text.dropWhile isBlank).head? = some character →
    isWordPart character = false ∧ character ≠ '<'

namespace EndsName

theorem nil : EndsName [] :=
  nofun

theorem sign {character : Point} (noPart : isWordPart character = false)
    (noOpening : character ≠ '<') (visible : isBlank character = false) (rest : List Point) :
    EndsName (character :: rest) := by
  intro first found
  rw [List.dropWhile_cons_of_neg (by simp [visible]), List.head?_cons, Option.some.injEq] at found
  exact found ▸ ⟨noPart, noOpening⟩

theorem blanks {blanks rest : List Point} (blank : AreBlank blanks) (ends : EndsName rest) :
    EndsName (blanks ++ rest) := by
  rw [EndsName, List.dropWhile_append_of_pos blank]
  exact ends

theorem opensArguments_eq {text : List Point} (ends : EndsName text) :
    opensArguments text = false := by
  rw [opensArguments, beq_eq_false_iff_ne]
  intro opening
  exact (ends '<' opening).2 rfl

theorem isWordPart_head {text : List Point} (ends : EndsName text) {character : Point}
    (first : text.head? = some character) : isWordPart character = false := by
  cases visible : isBlank character with
  | true => exact isWordPart_of_isBlank visible
  | false =>
      obtain ⟨rest, rfl⟩ := List.head?_eq_some_iff.mp first
      refine (ends character ?_).1
      rw [List.dropWhile_cons_of_neg (by simp [visible])]
      rfl

end EndsName

/-- Whether a text has certain names wherever it stands in front of a sign. -/
def HasUses (text : List Point) (uses : List NameUse) : Prop :=
  ∀ rest, EndsName rest → usesFrom [] (text ++ rest) = uses ++ usesFrom [] rest

namespace HasUses

theorem nameUses_eq {text : List Point} {uses : List NameUse} (has : HasUses text uses) :
    nameUses text = uses := by
  have whole := has [] .nil
  rw [List.append_nil] at whole
  exact whole.trans (List.append_nil uses)

/-- Blanks around a text hold no names. -/
theorem of_trim {text : List Point} {uses : List NameUse} (has : HasUses (trim text) uses) :
    HasUses text uses := by
  intro rest ends
  obtain ⟨before, after, blankBefore, blankAfter, around⟩ := exists_blanks_around_trim text
  rw [around, List.append_assoc, List.append_assoc, usesFrom_append_of_blank blankBefore,
    has _ (ends.blanks blankAfter), usesFrom_append_of_blank blankAfter]

theorem named {name : List Point} (dotted : IsDottedName name) :
    HasUses name [⟨Text.ofList name, false⟩] := by
  intro rest ends
  rw [usesFrom_name dotted fun _ => ends.isWordPart_head, ends.opensArguments_eq]
  rfl

theorem array {element : List Point} {uses : List NameUse} (has : HasUses element uses) :
    HasUses (element ++ [.scalar '[', .scalar ']']) uses := by
  intro rest _
  have ends : EndsName ([.scalar '[', .scalar ']'] ++ rest) :=
    .sign (by decide) (by decide) (by decide) _
  rw [List.append_assoc, has _ ends]
  rfl

/-- The names of arguments are those of the single arguments, one after the other. -/
theorem arguments {texts : List (List Point)} {uses : List (List NameUse)}
    (each : List.Forall₂ HasUses texts uses) (rest : List Point) :
    usesFrom [] ([.scalar ','].intercalate texts ++ .scalar '>' :: rest) =
      uses.flatten ++ usesFrom [] rest := by
  induction each with
  | nil => rfl
  | @cons text own texts others here more ih =>
      cases more with
      | nil =>
          have ends : EndsName (.scalar '>' :: rest) :=
            .sign (by decide) (by decide) (by decide) rest
          rw [List.intercalate_singleton, here _ ends, usesFrom_nil_sign (by decide),
            List.flatten_singleton]
      | cons next later =>
          have ends (behind : List Point) : EndsName (.scalar ',' :: behind) :=
            .sign (by decide) (by decide) (by decide) behind
          rw [List.intercalate_cons_cons, List.append_assoc, List.append_assoc,
            List.singleton_append, here _ (ends _), usesFrom_nil_sign (by decide), ih,
            ← List.append_assoc]
          rfl

theorem generic {head blanks : List Point} {texts : List (List Point)} {uses : List (List NameUse)}
    (dotted : IsDottedName head) (blank : AreBlank blanks)
    (each : List.Forall₂ HasUses texts uses) :
    HasUses (head ++ blanks ++ .scalar '<' :: [.scalar ','].intercalate texts ++ [.scalar '>'])
      (⟨Text.ofList head, true⟩ :: uses.flatten) := by
  intro rest _
  have opens (inside : List Point) : opensArguments (blanks ++ .scalar '<' :: inside) = true := by
    rw [opensArguments, List.dropWhile_append_of_pos blank]
    rfl
  have ends {inside : List Point} {character : Point}
      (first : (blanks ++ .scalar '<' :: inside).head? = some character) :
      isWordPart character = false := by
    cases blanks with
    | nil =>
        cases first
        decide
    | cons other more =>
        cases first
        exact isWordPart_of_isBlank (blank character List.mem_cons_self)
  simp only [List.append_assoc, List.cons_append, List.nil_append]
  rw [usesFrom_name dotted fun _ => ends, opens, usesFrom_append_of_blank blank,
    usesFrom_nil_sign (by decide), arguments each]

end HasUses

/-! ## Spelled expressions -/

theorem hasUses_of_spells {text : List Point} {tree : TypeTree} (spells : Spells text tree) :
    HasUses text tree.nameUses := by
  apply HasUses.of_trim
  induction spells with
  | named shape dotted =>
      rw [shape, TypeTree.nameUses]
      exact .named dotted
  | array shape _ ih =>
      rw [shape, TypeTree.nameUses]
      exact .array (.of_trim ih)
  | @generic text head blanks arguments trees shape dotted blank _ _ lengths _ ih =>
      have each : List.Forall₂ HasUses arguments (trees.map TypeTree.nameUses) :=
        List.forall₂_map_right_iff.mpr (List.forall₂_iff_zip.mpr
          ⟨lengths, fun member => .of_trim (ih _ _ member)⟩)
      rw [shape, TypeTree.nameUses]
      exact .generic dotted blank each

/-! ## Printed expressions -/

theorem aliasOf_aliasOf (name : Text) : aliasOf (aliasOf name) = aliasOf name := by
  have fixed : ∀ entry ∈ aliases, aliasOf entry.2 = entry.2 := by decide
  rcases aliasOf_cases name with same | listed
  · exact congrArg aliasOf same
  · exact fixed _ listed

/-- Aliases stand for themselves, so that they may take the place of names before printing. -/
theorem print_aliased (tree : TypeTree) : tree.aliased.print = tree.print := by
  fun_induction TypeTree.aliased tree with
  | case1 name => rw [TypeTree.print, TypeTree.print, aliasOf_aliasOf]
  | case2 element ih => rw [TypeTree.print, TypeTree.print, ih]
  | case3 head arguments ih =>
      have each : arguments.map (TypeTree.print ∘ TypeTree.aliased) =
          arguments.map TypeTree.print :=
        List.map_congr_left ih
      rw [TypeTree.print, TypeTree.print, List.map_map, each]

theorem nameUses_aliased (tree : TypeTree) :
    tree.aliased.nameUses = tree.nameUses.map NameUse.aliased := by
  fun_induction TypeTree.aliased tree with
  | case1 name => rw [TypeTree.nameUses, TypeTree.nameUses]; rfl
  | case2 element ih => rw [TypeTree.nameUses, TypeTree.nameUses, ih]
  | case3 head arguments ih =>
      have each : arguments.map (TypeTree.nameUses ∘ TypeTree.aliased) =
          arguments.map (List.map NameUse.aliased ∘ TypeTree.nameUses) :=
        List.map_congr_left ih
      rw [TypeTree.nameUses, TypeTree.nameUses, List.map_map, each, List.map_cons,
        List.map_flatten, List.map_map]
      rfl

/-- Arguments with a space in front of each but the first. -/
def spaced : List (List Point) → List (List Point)
  | [] => []
  | first :: rest => first :: rest.map (.scalar ' ' :: ·)

theorem intercalate_spaced (texts : List (List Point)) :
    [.scalar ','].intercalate (spaced texts) = [.scalar ',', .scalar ' '].intercalate texts := by
  cases texts with
  | nil => rfl
  | cons first rest =>
      rw [spaced]
      induction rest generalizing first with
      | nil => rfl
      | cons next others ih =>
          rw [List.map_cons, List.intercalate_cons_cons, List.intercalate_cons_cons, ← ih next]
          cases others <;> simp

theorem forall₂_spaced {β : Type} {relates : List Point → β → Prop} {texts : List (List Point)}
    {images : List β} (each : List.Forall₂ relates texts images)
    (space : ∀ text image, relates text image → relates (.scalar ' ' :: text) image) :
    List.Forall₂ relates (spaced texts) images := by
  cases each with
  | nil => exact .nil
  | cons first rest => exact .cons first (List.forall₂_map_left_iff.mpr (rest.imp space))

theorem toList_print_generic (head : Text) (trees : List TypeTree) :
    (TypeTree.generic head trees).print.toList =
      head.toList ++ .scalar '<' ::
        [.scalar ','].intercalate (spaced (trees.map (·.print.toList))) ++ [.scalar '>'] := by
  rw [TypeTree.print, intercalate_spaced]
  simp only [Text.toList_append, Text.toList_intercalate, List.map_map, List.append_assoc]
  rfl

/-- A printed expression has the names of the expression with aliases in place of built-in
names. -/
theorem hasUses_print {tree : TypeTree} (formed : IsWellFormed tree) :
    HasUses tree.print.toList tree.aliased.nameUses := by
  induction formed with
  | named dotted =>
      rw [TypeTree.print, TypeTree.aliased, TypeTree.nameUses]
      simpa using HasUses.named dotted.aliasOf
  | array _ ih =>
      rw [TypeTree.print, TypeTree.aliased, TypeTree.nameUses, Text.toList_append]
      exact .array ih
  | @generic head trees dotted _ _ ih =>
      have printed : List.Forall₂ HasUses (trees.map (·.print.toList))
          ((trees.map TypeTree.aliased).map TypeTree.nameUses) := by
        rw [List.map_map, List.forall₂_map_left_iff, List.forall₂_map_right_iff, List.forall₂_same]
        exact ih
      have space (text : List Point) (uses : List NameUse) (has : HasUses text uses) :
          HasUses (.scalar ' ' :: text) uses := by
        intro rest ends
        rw [List.cons_append, usesFrom_nil_sign (by decide)]
        exact has rest ends
      have whole := HasUses.generic dotted areBlank_nil (forall₂_spaced printed space)
      rw [toList_print_generic, TypeTree.aliased, TypeTree.nameUses, Text.toList_ofList]
      rwa [List.append_nil] at whole

end TypeName

end EntityForge
