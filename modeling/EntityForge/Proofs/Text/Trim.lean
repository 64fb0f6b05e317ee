import EntityForge.Text.Blank
import Mathlib.Data.List.DropRight

/-!
# Trimmed texts

Trimming takes blank characters from both ends of a text and nothing else.  What is left is told
by this alone: it is the one part between blanks that neither begins nor ends with a blank.
-/

namespace EntityForge.Text

/-- Whether a text holds blank characters only. -/
def AreBlank (text : List Point) : Prop :=
  ∀ character ∈ text, isBlank character = true

theorem areBlank_nil : AreBlank [] :=
  fun _ none => absurd none List.not_mem_nil

theorem AreBlank.notMem {text : List Point} (blank : AreBlank text) {sign : Point}
    (visible : isBlank sign = false) : sign ∉ text := by
  intro member
  cases visible.symm.trans (blank sign member)

/-- Whether a text has no blank character at either end. -/
structure IsTrimmed (text : List Point) : Prop where
  start : ∀ character, text.head? = some character → isBlank character = false
  ending : ∀ character, text.getLast? = some character → isBlank character = false

/-- A text without blank characters is trimmed. -/
theorem isTrimmed_of_forall {text : List Point}
    (filled : ∀ character ∈ text, isBlank character = false) : IsTrimmed text :=
  ⟨fun character first => filled character (List.mem_of_head? first),
    fun character last => filled character (List.mem_of_getLast? last)⟩

/-- Only the outer ends count. -/
theorem IsTrimmed.append {left right : List Point} (first : IsTrimmed left) (filledLeft : left ≠ [])
    (second : IsTrimmed right) (filledRight : right ≠ []) : IsTrimmed (left ++ right) := by
  constructor
  · intro character begins
    rw [List.head?_append_of_ne_nil left filledLeft] at begins
    exact first.start character begins
  · intro character ends
    rw [List.getLast?_append_of_ne_nil left filledRight] at ends
    exact second.ending character ends

theorem trim_eq (text : List Point) : trim text = (text.dropWhile isBlank).rdropWhile isBlank :=
  rfl

/-- No blank character is left at the ends. -/
theorem isTrimmed_trim (text : List Point) : IsTrimmed (trim text) := by
  rw [trim_eq]
  constructor
  · intro character first
    obtain ⟨rest, shape⟩ := List.head?_eq_some_iff.mp first
    obtain ⟨tail, whole⟩ := List.rdropWhile_prefix isBlank (l := text.dropWhile isBlank)
    rw [shape, List.cons_append] at whole
    have stopped : (text.dropWhile isBlank).head? = some character := by rw [← whole]; rfl
    simpa [stopped] using List.head?_dropWhile_not isBlank text
  · intro character last
    have nonempty : (text.dropWhile isBlank).rdropWhile isBlank ≠ [] := by
      intro empty
      rw [empty] at last
      cases last
    have stopped := List.rdropWhile_last_not isBlank _ nonempty
    rw [List.getLast?_eq_some_getLast nonempty, Option.some.injEq] at last
    rw [last] at stopped
    exact Bool.eq_false_iff.mpr stopped

/-- What is taken away is blank. -/
theorem exists_blanks_around_trim (text : List Point) :
    ∃ before after, AreBlank before ∧ AreBlank after ∧ text = before ++ trim text ++ after := by
  refine ⟨text.takeWhile isBlank, (text.dropWhile isBlank).rtakeWhile isBlank,
    fun _ => List.mem_takeWhile_imp, fun _ => List.mem_rtakeWhile_imp, ?_⟩
  rw [trim_eq, List.append_assoc, List.rdropWhile_append_rtakeWhile,
    List.takeWhile_append_dropWhile]

/-- Blanks around a trimmed text are taken away, and nothing else. -/
theorem trim_blanks_around {before core after : List Point} (blankBefore : AreBlank before)
    (blankAfter : AreBlank after) (trimmed : IsTrimmed core) :
    trim (before ++ core ++ after) = core := by
  rw [trim_eq, List.append_assoc, List.dropWhile_append_of_pos blankBefore]
  cases core with
  | nil =>
      rw [List.nil_append, List.dropWhile_eq_nil_iff.mpr blankAfter]
      rfl
  | cons first rest =>
      have filled := trimmed.start first rfl
      rw [List.cons_append, List.dropWhile_cons_of_neg (by simp [filled]), ← List.cons_append,
        List.rdropWhile, List.reverse_append, List.dropWhile_append_of_pos
          fun character member => blankAfter character (List.mem_reverse.mp member)]
      exact List.rdropWhile_eq_self_iff.mpr fun nonempty =>
        Bool.eq_false_iff.mp (trimmed.ending _ (List.getLast?_eq_some_getLast nonempty))

/-- A text is trimmed to the part that has no blanks at its ends. -/
theorem trim_eq_iff {text core : List Point} :
    trim text = core ↔ IsTrimmed core ∧
      ∃ before after, AreBlank before ∧ AreBlank after ∧ text = before ++ core ++ after := by
  constructor
  · rintro rfl
    exact ⟨isTrimmed_trim text, exists_blanks_around_trim text⟩
  · rintro ⟨trimmed, before, after, blankBefore, blankAfter, rfl⟩
    exact trim_blanks_around blankBefore blankAfter trimmed

theorem trim_of_isTrimmed {text : List Point} (trimmed : IsTrimmed text) : trim text = text :=
  trim_eq_iff.mpr ⟨trimmed, [], [], areBlank_nil, areBlank_nil, by simp⟩

theorem trim_cons_of_blank {blank : Point} (isBlank : isBlank blank = true) (text : List Point) :
    trim (blank :: text) = trim text := by
  rw [trim_eq, List.dropWhile_cons_of_pos isBlank, trim_eq]

@[simp] theorem trim_trim (text : List Point) : trim (trim text) = trim text :=
  trim_of_isTrimmed (isTrimmed_trim text)

end EntityForge.Text
