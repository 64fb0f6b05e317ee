import EntityForge.Proofs.Text.Lines
import EntityForge.Proofs.Traversal
import EntityForge.TypeName.Reader

/-!
# The characters of printed types

A type expression that was read is printed with the letters, digits and signs of the grammar only.
Neither line feeds nor braces nor any other character of the raw type name survive.
-/

namespace EntityForge.TypeName

open EntityForge.Text

/-- The characters of printed type expressions: those of names, and the signs between them. -/
def isTypeCharacter (character : Point) : Bool :=
  isNamePart character ||
    ([ '.', '<', '>', ',', ' ', '[', ']' ].map Point.scalar).contains character

theorem isNamePart_of_mem_simpleName {word : List Point} (simple : isSimpleName word = true)
    {character : Point} (member : character ∈ word) : isNamePart character = true := by
  cases word with
  | nil => cases member
  | cons first rest =>
      simp only [isSimpleName, Bool.and_eq_true, Bool.or_eq_true, List.all_eq_true] at simple
      rcases List.mem_cons.mp member with head | tail
      · subst head
        simp only [isNamePart, Bool.or_eq_true]
        exact simple.1.imp Or.inl id
      · exact simple.2 character tail

/-- A qualified name has dots between its words and no other signs. -/
theorem mem_qualifiedName {text : List Point} (qualified : isQualifiedName text = true)
    {character : Point} (member : character ∈ text) :
    isNamePart character = true ∨ character = '.' := by
  rw [← intercalate_splitOn '.' text] at member
  rcases mem_intercalate member with separator | ⟨piece, found, inPiece⟩
  · exact .inr (List.mem_singleton.mp separator)
  · have simple := List.all_eq_true.mp qualified piece found
    exact .inl (isNamePart_of_mem_simpleName simple inPiece)

theorem isTypeCharacter_of_mem_qualifiedName {text : List Point}
    (qualified : isQualifiedName text = true) {character : Point} (member : character ∈ text) :
    isTypeCharacter character = true := by
  rcases mem_qualifiedName qualified member with part | rfl
  · rw [isTypeCharacter, part, Bool.true_or]
  · decide

theorem sign_notMem_qualifiedName {text : List Point} (qualified : isQualifiedName text = true)
    {sign : Point} (noPart : isNamePart sign = false) (noDot : sign ≠ '.') : sign ∉ text := by
  intro member
  rcases mem_qualifiedName qualified member with part | dot
  · cases noPart.symm.trans part
  · exact noDot dot

/-- A qualified name is read as itself. -/
theorem readChars_qualifiedName {text : List Point}
    (qualified : isQualifiedName (trim text) = true) :
    readChars text = .ok (.named (Text.ofList (trim text))) := by
  have noBracket : .scalar '<' ∉ trim text :=
    sign_notMem_qualifiedName qualified (by decide) (by decide)
  have noClosing : .scalar ']' ∉ trim text :=
    sign_notMem_qualifiedName qualified (by decide) (by decide)
  have filled : (trim text).isEmpty = false := by
    cases shape : trim text with
    | nil =>
        rw [shape] at qualified
        cases qualified
    | cons => rfl
  have noArray : arrayElement? (trim text) = none := by
    rw [arrayElement?]
    split
    next element shape =>
      refine absurd ?_ noClosing
      rw [← List.mem_reverse, shape]
      exact List.mem_cons_self
    next => rfl
  have notNullable : ("System.Nullable<" : Text).toList.isPrefixOf (trim text) = false := by
    rw [Bool.eq_false_iff]
    intro opening
    have inPrefix : .scalar '<' ∈ ("System.Nullable<" : Text).toList := by decide
    exact noBracket ((List.isPrefixOf_iff_prefix.mp opening).subset inPrefix)
  rw [readChars]
  simp only [filled, Bool.false_eq_true, if_false]
  split
  next element found => cases noArray.symm.trans found
  next =>
    rw [notNullable, Bool.false_and, if_neg Bool.false_ne_true, dif_neg noBracket,
      if_pos qualified]

/-- What is printed for a name is the name itself or the alias that is listed for it. -/
theorem aliasOf_cases (name : Text) : aliasOf name = name ∨ (name, aliasOf name) ∈ aliases := by
  rw [aliasOf]
  cases found : aliases.lookup name with
  | none => exact .inl rfl
  | some word =>
      obtain ⟨before, after, split, _⟩ := List.lookup_eq_some_iff.mp found
      refine .inr ?_
      rw [split]
      exact List.mem_append_right _ List.mem_cons_self

/-- What is true of a name and of all aliases is true of what is printed for the name. -/
theorem holds_aliasOf (holds : Text → Prop) {name : Text} (own : holds name)
    (each : ∀ entry ∈ aliases, holds entry.2) : holds (aliasOf name) := by
  rcases aliasOf_cases name with same | listed
  · exact same.symm ▸ own
  · exact each _ listed

theorem isTypeCharacter_of_mem_aliasOf {name : Text}
    (legal : ∀ character ∈ name.toList, isTypeCharacter character = true)
    {character : Point} (member : character ∈ (aliasOf name).toList) :
    isTypeCharacter character = true := by
  have each : ∀ entry ∈ aliases, entry.2.toList.all isTypeCharacter = true := by decide
  exact List.all_eq_true.mp (holds_aliasOf (fun word => word.toList.all isTypeCharacter = true)
    (List.all_eq_true.mpr legal) each) character member

theorem isTypeCharacter_of_mem_sign {sign : Text}
    (legal : sign.toList.all isTypeCharacter = true) {character : Point}
    (member : character ∈ sign.toList) : isTypeCharacter character = true :=
  List.all_eq_true.mp legal character member

/-- A printed type consists of type characters, whatever text it was read from. -/
theorem isTypeCharacter_of_mem_print {text : List Point} {tree : TypeTree}
    (read : readChars text = .ok tree) :
    ∀ character ∈ tree.print.toList, isTypeCharacter character = true := by
  fun_induction readChars text generalizing tree with
  | case1 | case3 | case4 | case5 | case6 | case9 => cases read
  | case2 =>
      rename_i ih
      obtain ⟨inner, readInner, rfl⟩ := map_eq_ok_iff.mp read
      intro character member
      rw [TypeTree.print, Text.toList_append, List.mem_append] at member
      rcases member with inside | brackets
      · exact ih readInner character inside
      · exact isTypeCharacter_of_mem_sign (by decide) brackets
  | case7 =>
      rename_i wellFormed ih
      obtain ⟨trees, readTrees, rfl⟩ := map_eq_ok_iff.mp read
      simp only [Bool.or_eq_true, Bool.not_eq_true', not_or, Bool.not_eq_false] at wellFormed
      intro character member
      simp only [TypeTree.print, Text.toList_append, List.mem_append] at member
      rcases member with ((name | opening) | inside) | closing
      · exact isTypeCharacter_of_mem_qualifiedName wellFormed.1 name
      · exact isTypeCharacter_of_mem_sign (by decide) opening
      · rw [Text.toList_intercalate] at inside
        rcases mem_intercalate inside with separator | ⟨printed, found, inPrinted⟩
        · exact isTypeCharacter_of_mem_sign (by decide) separator
        · simp only [List.map_map, List.mem_map, Function.comp_apply] at found
          obtain ⟨argument, inTrees, rfl⟩ := found
          obtain ⟨raw, _, readRaw⟩ := exists_of_mem_mapM readTrees inTrees
          exact ih raw readRaw character inPrinted
      · exact isTypeCharacter_of_mem_sign (by decide) closing
  | case8 =>
      rename_i qualified
      cases read
      intro character member
      rw [TypeTree.print] at member
      apply isTypeCharacter_of_mem_aliasOf _ member
      intro kept inText
      rw [Text.toList_ofList] at inText
      exact isTypeCharacter_of_mem_qualifiedName qualified inText

end EntityForge.TypeName
