import EntityForge.Proofs.TypeName.Arguments
import EntityForge.Proofs.TypeName.Spelling

/-!
# Reading accepts the grammar

The reader works from the outside inwards on the text as it stands: it cuts at the first opening
bracket and at the last closing one.  It accepts exactly the texts that spell a type expression,
each for the one expression that it spells.
-/

namespace EntityForge.TypeName

open EntityForge.Text

/-! ## The parts of a text -/

theorem arrayElement?_eq_some_iff {text element : List Point} :
    arrayElement? text = some element ↔ text = element ++ [.scalar '[', .scalar ']'] := by
  rw [arrayElement?]
  constructor
  · intro found
    split at found
    next rest shape =>
      cases found
      simpa using congrArg List.reverse shape
    next => cases found
  · rintro rfl
    simp

theorem genericParts_append {name : List Point} (noOpening : .scalar '<' ∉ name)
    (inside : List Point) :
    genericParts (name ++ .scalar '<' :: inside ++ [.scalar '>']) = (name, inside) := by
  have stays : ∀ character ∈ name, (character != .scalar '<') = true := by
    intro character member
    exact bne_iff_ne.mpr fun same => noOpening (same ▸ member)
  rw [genericParts, List.append_assoc, List.takeWhile_append_of_pos stays,
    List.dropWhile_append_of_pos stays]
  simp

/-- A text with an opening bracket and a closing one at its end has the parts of a generic
application. -/
theorem exists_genericParts {text : List Point} (opening : .scalar '<' ∈ text)
    (closing : text.getLast? = some (.scalar '>')) :
    ∃ name inside, .scalar '<' ∉ name ∧ text = name ++ .scalar '<' :: inside ++ [.scalar '>'] := by
  obtain ⟨name, rest, rfl, noOpening⟩ := List.eq_append_cons_of_mem opening
  rcases List.eq_nil_or_concat rest with rfl | ⟨inside, last, rfl⟩
  · simp at closing
  · rw [List.concat_eq_append, ← List.cons_append, ← List.append_assoc,
      List.getLast?_concat, Option.some.injEq] at closing
    subst closing
    exact ⟨name, inside, noOpening, by simp⟩

/-! ## The reader by the shape of a text -/

theorem readChars_array {text element : List Point}
    (shape : trim text = element ++ [.scalar '[', .scalar ']']) :
    readChars text = (readChars element).map .array := by
  have filled : (trim text).isEmpty = false := by simp [shape]
  have isArray := arrayElement?_eq_some_iff.mpr shape
  rw [readChars]
  simp only [filled, Bool.false_eq_true, if_false]
  split
  next other found =>
    cases isArray.symm.trans found
    rfl
  next none => cases isArray.symm.trans none

theorem readChars_generic {text name inside : List Point} {arguments : List (List Point)}
    (shape : trim text = name ++ .scalar '<' :: inside ++ [.scalar '>'])
    (noOpening : .scalar '<' ∉ name)
    (notNullable : ¬("System.Nullable<" : Text).toList <+: trim text)
    (separated : splitArguments inside = .ok arguments)
    (qualified : isQualifiedName (trim name) = true)
    (filled : ∀ argument ∈ arguments, argument ≠ []) :
    readChars text =
      (arguments.mapM readChars).map (.generic (Text.ofList (trim name))) := by
  have someText : (trim text).isEmpty = false := by simp [shape]
  have opening : .scalar '<' ∈ trim text := by simp [shape]
  have closing : (trim text).getLast? = some (.scalar '>') := by rw [shape, List.getLast?_concat]
  have parts : genericParts (trim text) = (name, inside) := by
    rw [shape, genericParts_append noOpening]
  have noArray : arrayElement? (trim text) = none := by
    rw [Option.eq_none_iff_forall_ne_some]
    intro element isArray
    rw [arrayElement?_eq_some_iff.mp isArray] at closing
    simp at closing
  have unmarked : ("System.Nullable<" : Text).toList.isPrefixOf (trim text) = false :=
    Bool.eq_false_iff.mpr fun opens => notNullable (List.isPrefixOf_iff_prefix.mp opens)
  have noneEmpty : (arguments.any fun argument => argument.isEmpty) = false := by
    simpa [List.any_eq_false] using filled
  rw [readChars]
  simp only [someText, Bool.false_eq_true, if_false]
  split
  next element isArray => cases noArray.symm.trans isArray
  next =>
    rw [unmarked, Bool.false_and, if_neg Bool.false_ne_true, dif_pos opening, closing,
      bne_self_eq_false, if_neg Bool.false_ne_true]
    split
    next reason failed =>
      rw [parts, separated] at failed
      cases failed
    next found same =>
      rw [parts, separated, Except.ok.injEq] at same
      subst same
      simp only [parts, qualified, noneEmpty]
      rw [if_neg (by decide), List.mapM_subtype fun _ _ => rfl, List.unattach_attach]

/-- Since the text is trimmed, blanks of its head stand behind the name only. -/
theorem exists_blanks_behind {text name rest : List Point} (shape : trim text = name ++ rest) :
    ∃ blanks, AreBlank blanks ∧ name = trim name ++ blanks := by
  obtain ⟨before, blanks, blankBefore, blank, around⟩ := exists_blanks_around_trim name
  cases before with
  | nil => exact ⟨blanks, blank, around⟩
  | cons first others =>
      have starts : (trim text).head? = some first := by
        rw [shape, around]
        rfl
      have visible := (isTrimmed_trim text).start first starts
      cases visible.symm.trans (blankBefore first List.mem_cons_self)

/-- The parts that the reader cuts out of a text spell a generic application. -/
theorem spells_generic {text name inside : List Point} {arguments : List (List Point)}
    {trees : List TypeTree} (shape : trim text = name ++ .scalar '<' :: inside ++ [.scalar '>'])
    (notNullable : ¬("System.Nullable<" : Text).toList <+: trim text)
    (separated : splitArguments inside = .ok arguments) (dotted : IsDottedName (trim name))
    (spelled : List.Forall₂ Spells arguments trees) :
    Spells text (.generic (Text.ofList (trim name)) trees) := by
  obtain ⟨pieces, nonempty, rfl, rfl⟩ := exists_of_splitArguments separated
  rw [List.append_assoc] at shape
  obtain ⟨blanks, blank, around⟩ := exists_blanks_behind shape
  rw [around, ← List.append_assoc] at shape
  have paired : List.Forall₂ Spells pieces trees :=
    (List.forall₂_map_left_iff.mp spelled).imp fun _ _ spells => spells.of_trim_eq (trim_trim _)
  rw [List.forall₂_iff_zip] at paired
  exact .generic shape dotted blank notNullable nonempty paired.1
    fun _ _ member => paired.2 member

theorem spells_of_readChars {text : List Point} {tree : TypeTree}
    (read : readChars text = .ok tree) : Spells text tree := by
  fun_induction readChars text generalizing tree with
  | case1 | case3 | case4 | case5 | case6 | case9 => cases read
  | case2 =>
      rename_i found ih
      obtain ⟨inner, readInner, rfl⟩ := map_eq_ok_iff.mp read
      exact .array (arrayElement?_eq_some_iff.mp found) (ih readInner)
  | case7 =>
      rename_i text cleaned _ _ notNullable opening closing head arguments separated wellFormed ih
      obtain ⟨trees, readTrees, rfl⟩ := map_eq_ok_iff.mp read
      simp only [Bool.or_eq_true, Bool.not_eq_true', not_or, Bool.not_eq_false] at wellFormed
      have ending : cleaned.getLast? = some (.scalar '>') := by simpa using closing
      have unmarked : ¬("System.Nullable<" : Text).toList <+: cleaned := by
        intro opens
        refine notNullable ?_
        rw [List.isPrefixOf_iff_prefix.mpr opens, ending]
        rfl
      obtain ⟨name, inside, noOpening, shape⟩ := exists_genericParts opening ending
      have parts : genericParts cleaned = (name, inside) := by
        rw [shape, genericParts_append noOpening]
      have headName : head = trim name := congrArg (fun both => trim both.1) parts
      have spelled : List.Forall₂ Spells (arguments.attach.map Subtype.val) trees :=
        List.forall₂_map_left_iff.mpr ((mapM_eq_ok_iff.mp readTrees).imp fun _ _ => ih _)
      rw [List.attach_map_subtype_val] at spelled
      rw [parts] at separated
      rw [headName] at wellFormed ⊢
      exact spells_generic shape unmarked separated (isQualifiedName_iff.mp wellFormed.1) spelled
  | case8 =>
      rename_i qualified
      cases read
      exact .named rfl (isQualifiedName_iff.mp qualified)

/-! ## What is spelled is read -/

theorem openBrackets_of_areBlank {blanks : List Point} (blank : AreBlank blanks) :
    openBrackets 0 blanks = some 0 :=
  openBrackets_of_notMem (blank.notMem (by decide)) (blank.notMem (by decide))
    (blank.notMem (by decide)) 0

theorem openBrackets_of_isDottedName {name : List Point} (dotted : IsDottedName name) :
    openBrackets 0 name = some 0 :=
  openBrackets_of_notMem (dotted.notMem (by decide) (by decide))
    (dotted.notMem (by decide) (by decide)) (dotted.notMem (by decide) (by decide)) 0

/-- Only the part between the blanks around a text has brackets. -/
theorem openBrackets_of_trim {text : List Point} (closed : openBrackets 0 (trim text) = some 0) :
    openBrackets 0 text = some 0 := by
  obtain ⟨before, after, blankBefore, blankAfter, around⟩ := exists_blanks_around_trim text
  rw [around, List.append_assoc, openBrackets_append (openBrackets_of_areBlank blankBefore),
    openBrackets_append closed, openBrackets_of_areBlank blankAfter]

/-- In a type expression all brackets match, and all commas stand between brackets. -/
theorem openBrackets_of_spells {text : List Point} {tree : TypeTree} (spells : Spells text tree) :
    openBrackets 0 text = some 0 := by
  apply openBrackets_of_trim
  induction spells with
  | named shape dotted => exact shape ▸ openBrackets_of_isDottedName dotted
  | array shape _ ih =>
      rw [shape, openBrackets_append (openBrackets_of_trim ih)]
      rfl
  | @generic text head blanks arguments trees shape dotted blank _ _ lengths _ ih =>
      have closed : ∀ argument ∈ arguments, openBrackets 0 argument = some 0 := by
        intro argument member
        obtain ⟨_, trimmed⟩ := exists_of_forall₂ (List.forall₂_iff_zip.mpr ⟨lengths, ih _ _⟩) member
        exact openBrackets_of_trim trimmed
      rw [shape, List.append_assoc, List.append_assoc,
        openBrackets_append (openBrackets_of_isDottedName dotted),
        openBrackets_append (openBrackets_of_areBlank blank), List.cons_append,
        openBrackets_opening, openBrackets_append (openBrackets_intercalate closed),
        openBrackets_closing]
      rfl

theorem trim_ne_nil_of_spells {text : List Point} {tree : TypeTree} (spells : Spells text tree) :
    trim text ≠ [] := by
  cases spells with
  | named shape dotted => exact shape ▸ dotted.ne_nil
  | array shape _ => simp [shape]
  | generic shape => simp [shape]

theorem readChars_of_spells {text other : List Point} {tree : TypeTree} (spells : Spells text tree)
    (same : trim other = trim text) : readChars other = .ok tree := by
  induction spells generalizing other with
  | named shape dotted =>
      rw [shape] at same
      rw [readChars_qualifiedName (same ▸ isQualifiedName_iff.mpr dotted), same]
  | array shape _ ih => rw [readChars_array (same.trans shape), ih rfl, Except.map]
  | @generic text head blanks arguments trees shape dotted blank notNullable nonempty lengths
      spelled ih =>
      have paired : List.Forall₂ Spells arguments trees :=
        List.forall₂_iff_zip.mpr ⟨lengths, spelled _ _⟩
      have closed : ∀ argument ∈ arguments, openBrackets 0 argument = some 0 := by
        intro argument member
        obtain ⟨tree, spells⟩ := exists_of_forall₂ paired member
        exact openBrackets_of_spells spells
      have filled : ∀ argument ∈ arguments.map trim, argument ≠ [] := by
        refine List.forall_mem_map.mpr fun argument member => ?_
        obtain ⟨tree, spells⟩ := exists_of_forall₂ paired member
        exact trim_ne_nil_of_spells spells
      have noOpening : .scalar '<' ∉ head ++ blanks := by
        rw [List.mem_append, not_or]
        exact ⟨dotted.notMem (by decide) (by decide), blank.notMem (by decide)⟩
      have name : trim (head ++ blanks) = head :=
        trim_blanks_around areBlank_nil blank dotted.isTrimmed
      have readArguments : (arguments.map trim).mapM readChars = .ok trees := by
        rw [mapM_eq_ok_iff, List.forall₂_map_left_iff, List.forall₂_iff_zip]
        exact ⟨lengths, fun member => ih _ _ member (trim_trim _)⟩
      have qualified : isQualifiedName (trim (head ++ blanks)) = true := by
        rw [name]
        exact isQualifiedName_iff.mpr dotted
      rw [readChars_generic (same.trans shape) noOpening (same ▸ notNullable)
        (splitArguments_intercalate nonempty closed) qualified filled, readArguments, name,
        Except.map]

/-- Reading accepts exactly the texts that spell a type expression. -/
theorem readChars_eq_ok_iff {text : List Point} {tree : TypeTree} :
    readChars text = .ok tree ↔ Spells text tree :=
  ⟨spells_of_readChars, fun spells => readChars_of_spells spells rfl⟩

theorem canonical_eq_ok_iff {text printed : Text} :
    canonical text = .ok printed ↔ ∃ tree, Spells text.toList tree ∧ tree.print = printed := by
  rw [canonical, map_eq_ok_iff]
  simp only [read, readChars_eq_ok_iff]

theorem exists_canonical_eq_ok_iff {text : Text} :
    (∃ printed, canonical text = .ok printed) ↔ ∃ tree, Spells text.toList tree := by
  simp only [canonical_eq_ok_iff]
  constructor
  · rintro ⟨_, tree, spells, _⟩
    exact ⟨tree, spells⟩
  · rintro ⟨tree, spells⟩
    exact ⟨_, tree, spells, rfl⟩

end EntityForge.TypeName
