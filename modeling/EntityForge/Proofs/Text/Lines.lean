import EntityForge.Text.Split
import Mathlib.Data.List.Basic

/-!
# Pieces and lines

How splitting at a separator meets joining.  A separator between two texts keeps their pieces
apart, and a text without the separator only lengthens the last piece of what stands before it.
-/

namespace EntityForge.Text

variable {separator : Point}

@[simp] theorem splitOn_cons_separator (separator : Point) (rest : List Point) :
    splitOn separator (separator :: rest) = [] :: splitOn separator rest := by
  rw [splitOn, if_pos rfl]

theorem splitOn_cons_of_ne {character : Point} (different : character ≠ separator)
    (rest : List Point) :
    splitOn separator (character :: rest) =
      (character :: (splitOn separator rest).head (splitOn_ne_nil separator rest)) ::
        (splitOn separator rest).tail := by
  rw [splitOn, if_neg different]
  split
  next empty => exact absurd empty (splitOn_ne_nil separator rest)
  next piece more found => simp only [found, List.head_cons, List.tail_cons]

theorem splitOn_of_notMem {text : List Point} (absent : separator ∉ text) :
    splitOn separator text = [text] := by
  induction text with
  | nil => rfl
  | cons character rest ih =>
      simp only [List.mem_cons, not_or] at absent
      rw [splitOn_cons_of_ne (Ne.symm absent.1)]
      simp only [ih absent.2, List.head_cons, List.tail_cons]

/-- No piece holds the separator. -/
theorem notMem_of_mem_splitOn {text piece : List Point}
    (member : piece ∈ splitOn separator text) : separator ∉ piece := by
  induction text generalizing piece with
  | nil =>
      simp only [splitOn, List.mem_singleton] at member
      subst member
      exact List.not_mem_nil
  | cons character rest ih =>
      by_cases same : character = separator
      · subst same
        rw [splitOn_cons_separator, List.mem_cons] at member
        rcases member with empty | later
        · subst empty
          exact List.not_mem_nil
        · exact ih later
      · rw [splitOn_cons_of_ne same, List.mem_cons] at member
        rcases member with first | later
        · subst first
          rw [List.mem_cons, not_or]
          exact ⟨Ne.symm same, ih (List.head_mem _)⟩
        · exact ih (List.mem_of_mem_tail later)

/-- A separator between two texts keeps their pieces apart. -/
theorem splitOn_append_separator (left right : List Point) :
    splitOn separator (left ++ separator :: right) =
      splitOn separator left ++ splitOn separator right := by
  induction left with
  | nil => simp [splitOn]
  | cons character rest ih =>
      rw [List.cons_append]
      by_cases same : character = separator
      · subst same
        rw [splitOn_cons_separator, splitOn_cons_separator, ih, List.cons_append]
      · rw [splitOn_cons_of_ne same, splitOn_cons_of_ne same]
        have nonempty := splitOn_ne_nil separator rest
        simp only [ih, List.head_append_of_ne_nil nonempty, List.tail_append_of_ne_nil nonempty,
          List.cons_append]

/-- A text without the separator in front lengthens the first piece. -/
theorem splitOn_append_left {left : List Point} (absent : separator ∉ left)
    (right : List Point) :
    splitOn separator (left ++ right) =
      (left ++ (splitOn separator right).head (splitOn_ne_nil separator right)) ::
        (splitOn separator right).tail := by
  induction left with
  | nil => simp
  | cons character rest ih =>
      simp only [List.mem_cons, not_or] at absent
      rw [List.cons_append, splitOn_cons_of_ne (Ne.symm absent.1)]
      simp only [ih absent.2, List.head_cons, List.tail_cons, List.cons_append]

/-- A text without the separator at the end lengthens the last piece. -/
theorem splitOn_append_right {right : List Point} (absent : separator ∉ right)
    (left : List Point) :
    splitOn separator (left ++ right) =
      (splitOn separator left).dropLast ++
        [(splitOn separator left).getLast (splitOn_ne_nil separator left) ++ right] := by
  induction left with
  | nil => simp [splitOn, splitOn_of_notMem absent]
  | cons character rest ih =>
      rw [List.cons_append]
      have nonempty := splitOn_ne_nil separator rest
      by_cases same : character = separator
      · subst same
        simp only [splitOn_cons_separator, ih, List.dropLast_cons_of_ne_nil nonempty,
          List.getLast_cons nonempty, List.cons_append]
      · simp only [splitOn_cons_of_ne same, ih]
        obtain ⟨piece, more, found⟩ := List.exists_cons_of_ne_nil nonempty
        cases more with
        | nil => simp [found]
        | cons next others => simp [found]

/-- Joined pieces without the separator are split again. -/
theorem splitOn_intercalate {pieces : List (List Point)} (nonempty : pieces ≠ [])
    (absent : ∀ piece ∈ pieces, separator ∉ piece) :
    splitOn separator ([separator].intercalate pieces) = pieces := by
  induction pieces with
  | nil => exact absurd rfl nonempty
  | cons piece rest ih =>
      rw [List.forall_mem_cons] at absent
      cases rest with
      | nil => rw [List.intercalate_singleton, splitOn_of_notMem absent.1]
      | cons next others =>
          rw [List.intercalate_cons_cons, List.append_assoc, List.singleton_append,
            splitOn_append_separator, splitOn_of_notMem absent.1,
            ih (List.cons_ne_nil next others) absent.2, List.singleton_append]

/-! ## The last separator -/

theorem splitLast_of_notMem {text : List Point} (absent : separator ∉ text) :
    splitLast separator text = ([], text) := by
  cases text with
  | nil => rfl
  | cons character rest =>
      simp only [List.mem_cons, not_or] at absent
      have later : ¬rest.contains separator = true := by
        simpa using absent.2
      rw [splitLast, if_neg later, if_neg (Ne.symm absent.1)]

/-- Where no separator follows, a separator is the last one. -/
theorem splitLast_append {after : List Point} (absent : separator ∉ after) (before : List Point) :
    splitLast separator (before ++ separator :: after) = (before, after) := by
  induction before with
  | nil =>
      have later : ¬after.contains separator = true := by
        simpa using absent
      rw [List.nil_append, splitLast, if_neg later, if_pos rfl]
  | cons character rest ih =>
      have later : (rest ++ separator :: after).contains separator = true := by
        simp
      rw [List.cons_append, splitLast, if_pos later, ih]

/-- A separator that is there at all is there for the last time. -/
theorem exists_append_of_mem {text : List Point} (member : separator ∈ text) :
    ∃ before after, text = before ++ separator :: after ∧ separator ∉ after := by
  induction text with
  | nil => cases member
  | cons character rest ih =>
      by_cases later : separator ∈ rest
      · obtain ⟨before, after, rfl, absent⟩ := ih later
        exact ⟨character :: before, after, rfl, absent⟩
      · cases member with
        | head => exact ⟨[], rest, rfl, later⟩
        | tail _ impossible => exact absurd impossible later

/-! ## Counting separators -/

/-- There is one piece more than there are separators. -/
theorem length_splitOn (separator : Point) (text : List Point) :
    (splitOn separator text).length = text.count separator + 1 := by
  induction text with
  | nil => rfl
  | cons character rest ih =>
      by_cases same : character = separator
      · rw [same, splitOn_cons_separator, List.length_cons, ih, List.count_cons_self]
      · have nonempty := List.length_pos_iff.mpr (splitOn_ne_nil separator rest)
        rw [splitOn_cons_of_ne same, List.length_cons, List.length_tail, ih,
          List.count_cons_of_ne same]
        omega

theorem length_pieces (separator : Point) (text : Text) :
    (pieces separator text).length = text.toList.count separator + 1 := by
  rw [pieces, List.length_map, length_splitOn]

/-- Nothing stands before a separator in a text that begins with one, unless it holds one. -/
theorem eq_nil_of_cons_eq_append {separator : Point} {after before rest : List Point}
    (shape : separator :: after = before ++ rest) (none : before.count separator = 0) :
    before = [] := by
  cases before with
  | nil => rfl
  | cons first others =>
      rw [List.cons_append, List.cons.injEq] at shape
      rw [← shape.1, List.count_cons_self] at none
      cases none

/-- A text is divided at the separator that has as many separators before it. -/
theorem append_separator_inj {separator : Point} {left right start rest : List Point}
    (same : left ++ separator :: right = start ++ separator :: rest)
    (count : left.count separator = start.count separator) : left = start ∧ right = rest := by
  rcases List.append_eq_append_iff.mp same with ⟨more, rfl, longer⟩ | ⟨more, rfl, longer⟩
  · rw [List.count_append] at count
    have empty := eq_nil_of_cons_eq_append longer (by omega)
    subst empty
    simpa using longer
  · rw [List.count_append] at count
    have empty := eq_nil_of_cons_eq_append longer (by omega)
    subst empty
    simpa using longer.symm

/-! ## Dotted texts -/

theorem toList_append_dot (front back : Text) :
    (front ++ "." ++ back).toList = front.toList ++ .scalar '.' :: back.toList := by
  simp [Text.toList_append]

/-- What one half has more than the other one is nothing, or it is a part of the other half. -/
theorem eq_or_exists_part {left right start rest : Text} {more : List Point}
    (front : start.toList = left.toList ++ more)
    (back : .scalar '.' :: right.toList = more ++ .scalar '.' :: rest.toList) :
    (left = start ∧ right = rest) ∨
      ∃ part, start = left ++ "." ++ part ∧ right = part ++ "." ++ rest := by
  cases more with
  | nil =>
      rw [List.append_nil] at front
      exact .inl ⟨Text.toList_inj.mp front.symm, Text.toList_inj.mp (List.cons.inj back).2⟩
  | cons first part =>
      obtain ⟨rfl, inBack⟩ := List.cons.inj back
      refine .inr ⟨Text.ofList part, ?_, ?_⟩
      · rw [← Text.toList_inj, toList_append_dot, Text.toList_ofList, front]
      · rw [← Text.toList_inj, toList_append_dot, Text.toList_ofList]
        exact inBack

/-- Texts with a dot between their halves are equal if the halves are, or if a part of one half
belongs to the other half in the other text. -/
theorem append_dot_eq_iff {left right start rest : Text} :
    left ++ "." ++ right = start ++ "." ++ rest ↔
      (left = start ∧ right = rest) ∨
      (∃ part, start = left ++ "." ++ part ∧ right = part ++ "." ++ rest) ∨
      ∃ part, left = start ++ "." ++ part ∧ rest = part ++ "." ++ right := by
  constructor
  · intro same
    rw [← Text.toList_inj, toList_append_dot, toList_append_dot] at same
    rcases List.append_eq_append_iff.mp same with ⟨more, front, back⟩ | ⟨more, front, back⟩
    · exact (eq_or_exists_part front back).imp_right .inl
    · rcases eq_or_exists_part front back with ⟨sameStart, sameRest⟩ | part
      · exact .inl ⟨sameStart.symm, sameRest.symm⟩
      · exact .inr (.inr part)
  · rintro (⟨rfl, rfl⟩ | ⟨part, rfl, rfl⟩ | ⟨part, rfl, rfl⟩)
    · rfl
    · simp only [Text.append_assoc]
    · simp only [Text.append_assoc]

/-! ## Pieces between dots -/

theorem pieces_ne_nil (separator : Point) (text : Text) : pieces separator text ≠ [] := by
  rw [pieces, ne_eq, List.map_eq_nil_iff]
  exact splitOn_ne_nil separator text.toList

/-- The pieces joined by dots are the text again. -/
theorem intercalate_pieces (text : Text) : Text.intercalate "." (pieces '.' text) = text := by
  have whole := intercalate_splitOn '.' text.toList
  rw [← Text.toList_inj, Text.toList_intercalate, pieces, List.map_map]
  simpa [Function.comp_def] using whole

/-- A dot between two texts keeps their pieces apart. -/
theorem pieces_append_dot (front back : Text) :
    pieces '.' (front ++ "." ++ back) = pieces '.' front ++ pieces '.' back := by
  rw [pieces, toList_append_dot, splitOn_append_separator, List.map_append, pieces, pieces]

/-- Texts without dots are the pieces of the text that they are joined to. -/
theorem pieces_intercalate_dot {texts : List Text} (nonempty : texts ≠ [])
    (absent : ∀ text ∈ texts, .scalar '.' ∉ text.toList) :
    pieces '.' (Text.intercalate "." texts) = texts := by
  have split : splitOn '.' ([.scalar '.'].intercalate (texts.map Text.toList)) =
      texts.map Text.toList :=
    splitOn_intercalate (by simpa using nonempty) (List.forall_mem_map.mpr absent)
  rw [pieces, Text.toList_intercalate]
  calc (splitOn '.' ([.scalar '.'].intercalate (texts.map Text.toList))).map Text.ofList
      = (texts.map Text.toList).map Text.ofList := by rw [split]
    _ = texts := by simp [List.map_map, Function.comp_def]

/-! ## Joined texts -/

/-- What is true of texts and stays true where two of them meet is true of all of them joined. -/
theorem holds_intercalate {holds : Text → Prop}
    (joined : ∀ left right, holds left → holds right → holds (left ++ right))
    (empty : holds "") {separator : Text} (between : holds separator) {texts : List Text}
    (each : ∀ text ∈ texts, holds text) : holds (separator.intercalate texts) := by
  induction texts with
  | nil =>
      rw [Text.intercalate_nil]
      exact empty
  | cons text rest ih =>
      rw [List.forall_mem_cons] at each
      cases rest with
      | nil =>
          rw [Text.intercalate_singleton]
          exact each.1
      | cons next others =>
          rw [Text.intercalate_cons_cons]
          exact joined _ _ (joined _ _ each.1 between) (ih each.2)

/-- Joining adds no characters but those of the separator. -/
theorem mem_intercalate {separator : List Point} {texts : List (List Point)} {character : Point}
    (member : character ∈ separator.intercalate texts) :
    character ∈ separator ∨ ∃ text ∈ texts, character ∈ text := by
  induction texts with
  | nil => simp at member
  | cons text rest ih =>
      cases rest with
      | nil => exact Or.inr ⟨text, List.mem_cons_self, by simpa using member⟩
      | cons next others =>
          rw [List.intercalate_cons_cons, List.mem_append, List.mem_append] at member
          rcases member with (first | between) | later
          · exact Or.inr ⟨text, List.mem_cons_self, first⟩
          · exact Or.inl between
          · rcases ih later with between | ⟨other, found, inOther⟩
            · exact Or.inl between
            · exact Or.inr ⟨other, List.mem_cons_of_mem _ found, inOther⟩

/-- Joining keeps every text whole. -/
theorem infix_intercalate {separator text : List Point} {texts : List (List Point)}
    (member : text ∈ texts) : text <:+: separator.intercalate texts := by
  induction texts with
  | nil => cases member
  | cons first rest ih =>
      cases rest with
      | nil =>
          refine ⟨[], [], ?_⟩
          rw [List.mem_singleton.mp member, List.intercalate_singleton, List.append_nil,
            List.nil_append]
      | cons next others =>
          rw [List.intercalate_cons_cons]
          rcases List.mem_cons.mp member with rfl | later
          · rw [List.append_assoc]
            exact (List.prefix_append _ _).isInfix
          · exact (ih later).trans (List.suffix_append _ _).isInfix

/-- Joining drops no characters. -/
theorem subset_intercalate {separator text : List Point} {texts : List (List Point)}
    (member : text ∈ texts) : text ⊆ separator.intercalate texts :=
  (infix_intercalate member).subset

theorem notMem_toList_intercalate {separator : Text} {texts : List Text} {character : Point}
    (between : character ∉ separator.toList)
    (inside : ∀ text ∈ texts, character ∉ text.toList) :
    character ∉ (separator.intercalate texts).toList := by
  intro member
  rw [Text.toList_intercalate] at member
  rcases mem_intercalate member with separates | ⟨text, inTexts, inText⟩
  · exact between separates
  · obtain ⟨original, inOriginals, rfl⟩ := List.mem_map.mp inTexts
    exact inside original inOriginals inText

/-- A joined text begins like the first of its texts. -/
theorem exists_toList_intercalate {word : Text} {first : Point} {rest : List Point}
    (shape : word.toList = first :: rest) (separator : Text) (others : List Text) :
    ∃ more, (separator.intercalate (word :: others)).toList = first :: more := by
  rw [Text.toList_intercalate, List.map_cons, shape]
  cases others with
  | nil => exact ⟨rest, by simp⟩
  | cons next later =>
      rw [List.map_cons, List.intercalate_cons_cons]
      exact ⟨_, rfl⟩

end EntityForge.Text
