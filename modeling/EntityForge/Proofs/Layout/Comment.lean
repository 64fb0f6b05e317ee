import EntityForge.Proofs.Layout.Physical
import Mathlib.Algebra.GroupWithZero.Nat

/-!
# Documentation comments

A text without its documentation comments, and lines between which comments were put.  Line feeds
inside a comment begin lines that may be no comments, which are counted as strays: dropping the
comments gives the lines back exactly if there is no stray.
-/

namespace EntityForge.Layout

open EntityForge.Text

/-- Whether a physical line is a documentation comment: three slashes behind any spaces. -/
def isComment (line : List Point) : Bool :=
  [.scalar '/', .scalar '/', .scalar '/'].isPrefixOf (line.dropWhile (· == .scalar ' '))

/-- A text without the lines that are documentation comments. -/
def withoutComments (code : Text) : Text :=
  Text.intercalate "\n" ((lines code).filter fun line => !isComment line.toList)

/-- Whether every line that a line feed in a text begins is a comment by itself. -/
def StaysInComment (text : Text) : Prop :=
  ∀ line ∈ (lines text).tail, isComment line.toList = true

instance (text : Text) : Decidable (StaysInComment text) :=
  inferInstanceAs (Decidable (∀ line ∈ (lines text).tail, isComment line.toList = true))

/-- The number of lines that line feeds in a text begin and that are no comments. -/
def strays (text : Text) : Nat :=
  (splitOn '\n' text.toList).tail.countP fun line => !isComment line

theorem strays_eq_zero_iff {text : Text} : strays text = 0 ↔ StaysInComment text := by
  simp only [strays, List.countP_eq_zero, StaysInComment, lines, pieces, ← List.map_tail,
    List.forall_mem_map, Bool.not_eq_true', Bool.not_eq_false]

/-! ## Comments among characters -/

theorem isComment_replicate_append (count : Nat) (text : List Point) :
    isComment (List.replicate count (.scalar ' ') ++ text) = isComment text := by
  have spaces : ∀ character ∈ List.replicate count (Point.scalar ' '),
      (character == .scalar ' ') = true := by
    intro character member
    rw [List.eq_of_mem_replicate member]
    rfl
  rw [isComment, isComment, List.dropWhile_append_of_pos spaces]

theorem isComment_slashes (rest : List Point) :
    isComment (.scalar '/' :: .scalar '/' :: .scalar '/' :: rest) = true := by
  simp [isComment, List.isPrefixOf]

theorem isPrefixOf_append_of_notMem {start : List Point} {first : Point} (foreign : first ∉ start)
    (line rest : List Point) :
    start.isPrefixOf (line ++ first :: rest) = start.isPrefixOf line := by
  induction start generalizing line with
  | nil => rw [List.isPrefixOf_nil_left, List.isPrefixOf_nil_left]
  | cons character more ih =>
      simp only [List.mem_cons, not_or] at foreign
      cases line with
      | nil => simp [List.isPrefixOf, Ne.symm foreign.1]
      | cons head tail => simp only [List.cons_append, List.isPrefixOf, ih foreign.2]

/-- What follows a text does not make it a comment, unless it begins with a space or a slash. -/
theorem isComment_append {first : Point} (notSpace : first ≠ ' ') (notSlash : first ≠ '/')
    (line rest : List Point) : isComment (line ++ first :: rest) = isComment line := by
  have foreign : first ∉ [.scalar '/', .scalar '/', .scalar '/'] := by simp [notSlash]
  rw [isComment, isComment]
  induction line with
  | nil =>
      rw [List.nil_append, List.dropWhile_cons_of_neg (by simpa using notSpace)]
      exact isPrefixOf_append_of_notMem foreign [] rest
  | cons character more ih =>
      by_cases space : character = ' '
      · subst space
        exact ih
      · have kept (tail : List Point) :
            (character :: tail).dropWhile (· == .scalar ' ') = character :: tail :=
          List.dropWhile_cons_of_neg (by simpa using space)
        rw [List.cons_append, kept, kept]
        exact isPrefixOf_append_of_notMem foreign (character :: more) rest

theorem isComment_cons {first : Point} (notSpace : first ≠ ' ') (notSlash : first ≠ '/')
    (rest : List Point) : isComment (first :: rest) = false :=
  isComment_append notSpace notSlash [] rest

/-- A frame around a text adds no strays, if it has no line feeds and its end cannot complete a
comment. -/
theorem strays_frame {before after : Text} {first : Point} {rest : List Point}
    (single : .scalar '\n' ∉ before.toList) (shape : after.toList = first :: rest)
    (ending : .scalar '\n' ∉ after.toList) (notSpace : first ≠ ' ') (notSlash : first ≠ '/')
    (text : Text) : strays (before ++ text ++ after) = strays text := by
  rw [strays, Text.toList_append, Text.toList_append, List.append_assoc,
    splitOn_append_left single, List.tail_cons, splitOn_append_right ending, strays]
  have nonempty := splitOn_ne_nil '\n' text.toList
  obtain ⟨head, more, found⟩ := List.exists_cons_of_ne_nil nonempty
  cases more with
  | nil => simp [found]
  | cons next others =>
      have lastSame := isComment_append notSpace notSlash ((next :: others).getLast (by simp)) rest
      have parts := List.dropLast_append_getLast (List.cons_ne_nil next others)
      simp only [found, List.dropLast_cons_of_ne_nil (List.cons_ne_nil next others),
        List.cons_append, List.tail_cons, List.getLast_cons (List.cons_ne_nil next others), shape]
      conv_rhs => rw [← parts]
      rw [List.countP_append, List.countP_append, List.countP_singleton, List.countP_singleton,
        lastSame]

/-! ## Comments among lines -/

/-- Whether a line is a comment, at whatever depth it stands. -/
def Line.isComment (line : Line) : Bool :=
  Layout.isComment line.text.toList

/-- Code that begins with neither a space nor a slash is no comment. -/
theorem Line.isComment_eq_false {line : Line} {first : Point}
    (start : line.text.toList.head? = some first) (notSpace : first ≠ ' ')
    (notSlash : first ≠ '/') : line.isComment = false := by
  obtain ⟨rest, shape⟩ := List.head?_eq_some_iff.mp start
  rw [Line.isComment, shape]
  exact Layout.isComment_cons notSpace notSlash rest

theorem isComment_physical (unit : Nat) (line : Line) :
    isComment (line.physical unit) = line.isComment := by
  rw [Line.physical, Line.isComment]
  split
  next empty =>
    rw [Text.isEmpty_iff.mp empty]
    rfl
  next => rw [isComment_replicate_append]

/-- Dropping the comments of a text drops those of its lines. -/
theorem withoutComments_render {lines : List Line} (single : ∀ line ∈ lines, line.IsSingle)
    (unit : Nat) :
    withoutComments (render unit lines) =
      render unit (lines.filter fun line => !line.isComment) := by
  have keptSingle : ∀ line ∈ lines.filter (fun line => !line.isComment), line.IsSingle :=
    fun line member => single line (List.mem_of_mem_filter member)
  have physical : ((splitOn '\n' (render unit lines).toList).filter fun line => !isComment line) =
      splitOn '\n' (render unit (lines.filter fun line => !line.isComment)).toList := by
    rw [splitOn_render single, splitOn_render keptSingle, List.filter_append, List.filter_map]
    simp only [Function.comp_def, isComment_physical]
    rfl
  rw [← Text.toList_inj, withoutComments, Text.toList_intercalate, Text.lines, pieces,
    List.filter_map, List.map_map]
  simp only [Function.comp_def, List.map_id', physical]
  exact intercalate_splitOn '\n' _

/-- Lines that are other lines with comments put between them.  The strays are lines that were put
there and are no comments. -/
inductive Annotates : List Line → List Line → Nat → Prop where
  | nil : Annotates [] [] 0
  | code {line : Line} {annotated plain : List Line} {count : Nat} :
      line.IsSingle → line.isComment = false → Annotates annotated plain count →
      Annotates (line :: annotated) (line :: plain) count
  | comment {line : Line} {annotated plain : List Line} {count : Nat} :
      line.IsSingle → line.isComment = true → Annotates annotated plain count →
      Annotates (line :: annotated) plain count
  | stray {line : Line} {annotated plain : List Line} {count : Nat} :
      line.IsSingle → line.isComment = false → Annotates annotated plain count →
      Annotates (line :: annotated) plain (count + 1)

namespace Annotates

variable {annotated plain : List Line} {count : Nat}

theorem isSingle (annotates : Annotates annotated plain count) :
    ∀ line ∈ annotated, line.IsSingle := by
  induction annotates with
  | nil => exact fun _ member => absurd member List.not_mem_nil
  | code single _ _ ih | comment single _ _ ih | stray single _ _ ih =>
      exact List.forall_mem_cons.mpr ⟨single, ih⟩

theorem isSingle_plain (annotates : Annotates annotated plain count) :
    ∀ line ∈ plain, line.IsSingle := by
  induction annotates with
  | nil => exact fun _ member => absurd member List.not_mem_nil
  | code single _ _ ih => exact List.forall_mem_cons.mpr ⟨single, ih⟩
  | comment _ _ _ ih | stray _ _ _ ih => exact ih

/-- Without the comments there are the plain lines and the strays. -/
theorem length_filter (annotates : Annotates annotated plain count) :
    (annotated.filter fun line => !line.isComment).length = plain.length + count := by
  induction annotates with
  | nil => rfl
  | code _ isCode _ ih =>
      simp only [List.filter_cons, isCode, Bool.not_false, if_true, List.length_cons, ih]
      omega
  | comment _ isComment _ ih => simpa [List.filter_cons, isComment] using ih
  | stray _ isCode _ ih =>
      simp only [List.filter_cons, isCode, Bool.not_false, if_true, List.length_cons, ih]
      omega

theorem filter_eq (annotates : Annotates annotated plain count) (none : count = 0) :
    (annotated.filter fun line => !line.isComment) = plain := by
  induction annotates with
  | nil => rfl
  | code _ isCode _ ih => simp [isCode, ih none]
  | comment _ isComment _ ih => simp [isComment, ih none]
  | stray => cases none

/-- Dropping the comments of annotated lines gives the plain ones exactly if there is no stray. -/
theorem withoutComments_render_eq_iff (annotates : Annotates annotated plain count)
    (unit : Nat) :
    withoutComments (render unit annotated) = render unit plain ↔ count = 0 := by
  rw [withoutComments_render annotates.isSingle]
  constructor
  · intro equal
    have lengths := length_eq_of_render_eq
      (fun line member => annotates.isSingle line (List.mem_of_mem_filter member))
      annotates.isSingle_plain equal
    rw [annotates.length_filter] at lengths
    omega
  · intro none
    rw [annotates.filter_eq none]

theorem append {more rest : List Line} {other : Nat}
    (left : Annotates annotated plain count) (right : Annotates more rest other) :
    Annotates (annotated ++ more) (plain ++ rest) (count + other) := by
  induction left with
  | nil => simpa using right
  | code single isCode _ ih => exact .code single isCode ih
  | comment single isComment _ ih => exact .comment single isComment ih
  | stray single isCode _ ih =>
      rw [Nat.add_right_comm]
      exact .stray single isCode ih

theorem nest (annotates : Annotates annotated plain count) :
    Annotates (Layout.nest annotated) (Layout.nest plain) count := by
  induction annotates with
  | nil => exact .nil
  | code single isCode _ ih => exact .code single isCode ih
  | comment single isComment _ ih => exact .comment single isComment ih
  | stray single isCode _ ih => exact .stray single isCode ih

/-- Annotated lines between braces of their own. -/
theorem braced (annotates : Annotates annotated plain count) :
    Annotates (Layout.braced annotated) (Layout.braced plain) count := by
  have closing : Annotates [Line.flat "\x7d"] [Line.flat "\x7d"] 0 :=
    .code (by decide) (by decide) .nil
  exact .code (by decide) (by decide) (annotates.nest.append closing)

/-- Blocks of lines, each annotated by itself. -/
theorem flatMap {α : Type} {items : List α} {annotatedOf plainOf : α → List Line}
    {countOf : α → Nat}
    (each : ∀ item ∈ items, Annotates (annotatedOf item) (plainOf item) (countOf item)) :
    Annotates (items.flatMap annotatedOf) (items.flatMap plainOf) (items.map countOf).sum := by
  induction items with
  | nil => exact .nil
  | cons item rest ih =>
      simp only [List.flatMap_cons, List.map_cons, List.sum_cons]
      exact (each item List.mem_cons_self).append
        (ih fun other member => each other (List.mem_cons_of_mem _ member))

/-- Blocks of comments without strays. -/
theorem flatMap_nil {α : Type} {items : List α} {annotatedOf : α → List Line}
    (each : ∀ item ∈ items, Annotates (annotatedOf item) [] 0) :
    Annotates (items.flatMap annotatedOf) [] 0 := by
  induction items with
  | nil => exact .nil
  | cons item rest ih =>
      rw [List.flatMap_cons]
      exact (each item List.mem_cons_self).append
        (ih fun other member => each other (List.mem_cons_of_mem _ member))

end Annotates

end EntityForge.Layout
