import EntityForge.Proofs.Layout.Physical
import EntityForge.Proofs.Text.Brackets

/-!
# The structure of rendered lines

Braces and the marks of regions give code its structure.  Indentation has no part in it, so that
both are followed through the lines before they are rendered: lines put one behind the other have
the regions of either, and nesting them changes nothing.
-/

namespace EntityForge.Layout

open EntityForge.Text

/-! ## Regions -/

/-- A line without the spaces in front of it. -/
def withoutIndentation (line : List Point) : List Point :=
  line.dropWhile (· == .scalar ' ')

/-- A named region with the lines it encloses, which stand without their indentation. -/
structure Region where
  title : Text
  enclosed : List (List Point)

/-- Lines, without their indentation, that have the given regions one behind the other.  No line
has a number sign but those that open and close the regions, and none of these is enclosed. -/
inductive HasRegions : List (List Point) → List Region → Prop where
  | nil : HasRegions [] []
  | code {line : List Point} {rest : List (List Point)} {regions : List Region} :
      .scalar '#' ∉ line → HasRegions rest regions → HasRegions (line :: rest) regions
  | region {title : Text} {enclosed rest : List (List Point)} {regions : List Region} :
      (∀ line ∈ enclosed, .scalar '#' ∉ line) → HasRegions rest regions →
      HasRegions
        (("#region " ++ title).toList :: (enclosed ++ ("#endregion" : Text).toList :: rest))
        (⟨title, enclosed⟩ :: regions)

namespace HasRegions

variable {lines more : List (List Point)} {regions others : List Region}

theorem append (first : HasRegions lines regions) (second : HasRegions more others) :
    HasRegions (lines ++ more) (regions ++ others) := by
  induction first with
  | nil => exact second
  | code noMark _ ih => exact .code noMark ih
  | region noMarks _ ih =>
      rw [List.cons_append, List.append_assoc, List.cons_append, List.cons_append]
      exact .region noMarks ih

/-- Where there is no region, there is no number sign. -/
theorem notMem (none : HasRegions lines []) : ∀ line ∈ lines, .scalar '#' ∉ line := by
  generalize isNil : ([] : List Region) = regions at none
  induction none with
  | nil => exact fun _ member => absurd member List.not_mem_nil
  | code noMark _ ih => exact List.forall_mem_cons.mpr ⟨noMark, ih isNil⟩
  | region => cases isNil

end HasRegions

/-! ## Texts without structure -/

/-- Whether a text neither opens nor closes a block or a region of the code it stands in. -/
structure IsNeutral (text : Text) : Prop where
  noMark : .scalar '#' ∉ text.toList
  balanced : IsBalanced '{' '}' text.toList

/-- The characters that give code its structure. -/
def structuralCharacters : List Point := [.scalar '#', .scalar '{', .scalar '}']

/-- Whether a text has no structural character at all. -/
def IsInert (text : Text) : Prop :=
  ∀ character ∈ structuralCharacters, character ∉ text.toList

instance (text : Text) : Decidable (IsInert text) :=
  List.decidableBAll (· ∉ text.toList) structuralCharacters

namespace IsNeutral

theorem inert {text : Text} (absent : IsInert text) : IsNeutral text where
  noMark := absent '#' (by decide)
  balanced := .of_notMem (absent '{' (by decide)) (absent '}' (by decide))

theorem append {left right : Text} (first : IsNeutral left) (second : IsNeutral right) :
    IsNeutral (left ++ right) := by
  refine ⟨?_, ?_⟩ <;> rw [Text.toList_append]
  · rw [List.mem_append, not_or]
    exact ⟨first.noMark, second.noMark⟩
  · exact first.balanced.append second.balanced

theorem intercalate {separator : Text} {texts : List Text} (between : IsNeutral separator)
    (each : ∀ text ∈ texts, IsNeutral text) : IsNeutral (separator.intercalate texts) :=
  holds_intercalate (fun _ _ => append) (.inert (by decide)) between each

end IsNeutral

/-! ## Structured lines -/

/-- The characters of a line without its indentation. -/
def Line.content (line : Line) : List Point :=
  withoutIndentation line.text.toList

theorem Line.content_of_cons {line : Line} {first : Point} {rest : List Point}
    (shape : line.text.toList = first :: rest) (notSpace : first ≠ ' ') :
    line.content = line.text.toList := by
  rw [Line.content, withoutIndentation, shape, List.dropWhile_cons_of_neg (by simpa using notSpace)]

theorem withoutIndentation_physical (unit : Nat) (line : Line) :
    withoutIndentation (line.physical unit) = line.content := by
  rw [Line.physical, Line.content]
  split
  next empty =>
    rw [Text.isEmpty_iff.mp empty]
    rfl
  next =>
    have spaces : ∀ character ∈ List.replicate (unit * line.depth) (Point.scalar ' '),
        (character == .scalar ' ') = true := by
      intro character member
      rw [List.eq_of_mem_replicate member]
      rfl
    rw [withoutIndentation, List.dropWhile_append_of_pos spaces]
    rfl

/-- Lines whose braces pair up and that have the given regions. -/
structure IsStructured (lines : List Line) (regions : List Region) : Prop where
  balanced : IsBalanced '{' '}' (lines.flatMap fun line => line.text.toList)
  regions : HasRegions (lines.map Line.content) regions

namespace IsStructured

variable {lines more : List Line} {regions others : List Region}

theorem nil : IsStructured [] [] :=
  ⟨.nil, .nil⟩

theorem cons {line : Line} (neutral : IsNeutral line.text) (rest : IsStructured lines regions) :
    IsStructured (line :: lines) regions where
  balanced := neutral.balanced.append rest.balanced
  regions := .code (fun member => neutral.noMark ((List.dropWhile_sublist _).subset member))
    rest.regions

theorem append (first : IsStructured lines regions) (second : IsStructured more others) :
    IsStructured (lines ++ more) (regions ++ others) where
  balanced := by
    rw [List.flatMap_append]
    exact first.balanced.append second.balanced
  regions := by
    rw [List.map_append]
    exact first.regions.append second.regions

/-- Lines of code have no regions. -/
theorem ofNeutral (neutral : ∀ line ∈ lines, IsNeutral line.text) : IsStructured lines [] := by
  induction lines with
  | nil => exact .nil
  | cons line rest ih =>
      rw [List.forall_mem_cons] at neutral
      exact .cons neutral.1 (ih neutral.2)

/-- Blocks without regions. -/
theorem flatMap {α : Type} {items : List α} {linesOf : α → List Line}
    (each : ∀ item ∈ items, IsStructured (linesOf item) []) :
    IsStructured (items.flatMap linesOf) [] := by
  induction items with
  | nil => exact .nil
  | cons item rest ih =>
      rw [List.forall_mem_cons] at each
      rw [List.flatMap_cons]
      exact each.1.append (ih each.2)

/-- Deeper lines have the same structure. -/
theorem nest (structured : IsStructured lines regions) :
    IsStructured (Layout.nest lines) regions := by
  refine ⟨?_, ?_⟩
  · rw [Layout.nest, List.flatMap_map]
    exact structured.balanced
  · rw [Layout.nest, List.map_map]
    exact structured.regions

/-- Structured lines between braces of their own. -/
theorem braced (structured : IsStructured lines regions) :
    IsStructured (Layout.braced lines) regions := by
  refine ⟨?_, ?_⟩
  · have enclosed := IsBalanced.enclose (by decide) structured.nest.balanced
    rw [Layout.braced, List.flatMap_append]
    exact enclosed
  · have closing : HasRegions [(Line.flat "\x7d").content] [] := .code (by decide) .nil
    rw [Layout.braced, List.map_append, ← List.append_nil regions]
    exact .append (.code (by decide) structured.nest.regions) closing

/-- Rendering adds spaces and line feeds only, which are no braces. -/
theorem isBalanced_render (structured : IsStructured lines regions) (unit : Nat) :
    IsBalanced '{' '}' (render unit lines).toList := by
  let isKept (character : Point) : Bool := character != .scalar ' ' && character != .scalar '\n'
  have sameBraces : (render unit lines).toList.filter isKept =
      (lines.flatMap fun line => line.text.toList).filter isKept := by
    clear structured
    induction lines with
    | nil =>
        rw [toList_render_nil]
        rfl
    | cons line rest ih =>
        have unindented : (line.physical unit).filter isKept = line.text.toList.filter isKept := by
          rw [Line.physical]
          split
          next empty =>
            rw [Text.isEmpty_iff.mp empty]
            rfl
          next => simp [isKept]
        rw [toList_render_cons, List.filter_append, unindented,
          List.filter_cons_of_neg (by decide), ih, List.flatMap_cons, List.filter_append]
  have keepsBraces : isKept '{' = true ∧ isKept '}' = true := by decide
  rw [← IsBalanced.filter_iff keepsBraces.1 keepsBraces.2, sameBraces,
    IsBalanced.filter_iff keepsBraces.1 keepsBraces.2]
  exact structured.balanced

theorem hasRegions_physical (structured : IsStructured lines regions) (unit : Nat) :
    HasRegions ((lines.map (Line.physical unit)).map withoutIndentation) regions := by
  rw [List.map_map]
  simp only [Function.comp_def, withoutIndentation_physical]
  exact structured.regions

end IsStructured

end EntityForge.Layout
