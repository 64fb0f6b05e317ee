import EntityForge.Proofs.TypeName.Names

/-!
# Canonical type names read again

A canonical type name is read as an expression that is printed in the same way, so that it is its
own canonical form.  There is one exception.  A type that members have a mark for may not be
applied, and the reader knows such an application by its first characters.  Blanks between the name
and the bracket keep it from being known; printing takes them away, and what is printed is refused.
-/

namespace EntityForge.TypeName

open EntityForge.Text

/-! ## Texts in argument lists -/

/-- A text that is found again among the arguments of a list. -/
structure IsArgument (text : List Point) : Prop where
  filled : text ≠ []
  trimmed : IsTrimmed text
  closed : openBrackets 0 text = some 0

theorem mem_spaced {texts : List (List Point)} {text : List Point} (member : text ∈ spaced texts) :
    ∃ own ∈ texts, text = own ∨ text = .scalar ' ' :: own := by
  cases texts with
  | nil => cases member
  | cons first rest =>
      rcases List.mem_cons.mp member with rfl | later
      · exact ⟨text, List.mem_cons_self, .inl rfl⟩
      · obtain ⟨own, inRest, rfl⟩ := List.mem_map.mp later
        exact ⟨own, List.mem_cons_of_mem _ inRest, .inr rfl⟩

theorem map_trim_spaced {texts : List (List Point)} (each : ∀ text ∈ texts, IsTrimmed text) :
    (spaced texts).map trim = texts := by
  cases texts with
  | nil => rfl
  | cons first rest =>
      rw [List.forall_mem_cons] at each
      have later : (rest.map (.scalar ' ' :: ·)).map trim = rest.map id := by
        rw [List.map_map]
        refine List.map_congr_left fun text member => ?_
        exact (trim_cons_of_blank (by decide) text).trans (trim_of_isTrimmed (each.2 text member))
      rw [spaced, List.map_cons, trim_of_isTrimmed each.1, later, List.map_id]

section

variable {texts : List (List Point)} (each : ∀ text ∈ texts, IsArgument text)
include each

theorem openBrackets_of_mem_spaced {text : List Point} (member : text ∈ spaced texts) :
    openBrackets 0 text = some 0 := by
  obtain ⟨own, inTexts, rfl | rfl⟩ := mem_spaced member
  · exact (each text inTexts).closed
  · rw [openBrackets_other (by decide) (by decide) (by decide)]
    exact (each own inTexts).closed

theorem splitArguments_spaced (nonempty : texts ≠ []) :
    splitArguments ([.scalar ','].intercalate (spaced texts)) = .ok texts := by
  have filled : spaced texts ≠ [] := by
    cases texts with
    | nil => exact absurd rfl nonempty
    | cons first rest => exact List.cons_ne_nil _ _
  rw [splitArguments_intercalate filled fun _ => openBrackets_of_mem_spaced each,
    map_trim_spaced fun text member => (each text member).trimmed]

end

namespace IsArgument

theorem named {name : List Point} (dotted : IsDottedName name) : IsArgument name :=
  ⟨dotted.ne_nil, dotted.isTrimmed, openBrackets_of_isDottedName dotted⟩

theorem array {element : List Point} (argument : IsArgument element) :
    IsArgument (element ++ [.scalar '[', .scalar ']']) where
  filled := List.append_ne_nil_of_left_ne_nil argument.filled _
  trimmed := by
    have visible : [.scalar '[', .scalar ']'].any isBlank = false := by decide
    have brackets : IsTrimmed [.scalar '[', .scalar ']'] :=
      isTrimmed_of_forall (by simpa using visible)
    exact argument.trimmed.append argument.filled brackets (List.cons_ne_nil _ _)
  closed := by
    rw [openBrackets_append argument.closed]
    rfl

theorem generic {head : List Point} {texts : List (List Point)} (dotted : IsDottedName head)
    (each : ∀ text ∈ texts, IsArgument text) :
    IsArgument
      (head ++ .scalar '<' :: [.scalar ','].intercalate (spaced texts) ++ [.scalar '>']) where
  filled := by simp
  trimmed := by
    have brackets :
        IsTrimmed (.scalar '<' :: [.scalar ','].intercalate (spaced texts) ++ [.scalar '>']) := by
      constructor
      · intro character first
        cases first
        decide
      · intro character last
        rw [List.getLast?_concat] at last
        cases last
        decide
    rw [List.append_assoc]
    exact dotted.isTrimmed.append dotted.ne_nil brackets (List.cons_ne_nil _ _)
  closed := by
    rw [List.append_assoc, openBrackets_append (openBrackets_of_isDottedName dotted),
      List.cons_append, openBrackets_opening, openBrackets_append
        (openBrackets_intercalate fun _ => openBrackets_of_mem_spaced each),
      openBrackets_closing]
    rfl

end IsArgument

theorem isArgument_print {tree : TypeTree} (formed : IsWellFormed tree) :
    IsArgument tree.print.toList := by
  induction formed with
  | named dotted =>
      rw [TypeTree.print]
      exact .named dotted.aliasOf
  | array _ ih =>
      rw [TypeTree.print, Text.toList_append]
      exact ih.array
  | generic dotted _ _ ih =>
      rw [toList_print_generic, Text.toList_ofList]
      exact .generic dotted (List.forall_mem_map.mpr ih)

/-! ## The nullable type -/

/-- The use of the type that members have a mark for. -/
def nullableUse : NameUse :=
  ⟨"System.Nullable", true⟩

theorem nullableUse_eq_iff {name : List Point} {isApplied : Bool} :
    nullableUse = ⟨Text.ofList name, isApplied⟩ ↔
      name = ("System.Nullable" : Text).toList ∧ isApplied = true := by
  rw [nullableUse, NameUse.mk.injEq, ← Text.toList_inj, Text.toList_ofList name,
    eq_comm, @eq_comm _ true]

theorem toList_nullable :
    ("System.Nullable<" : Text).toList = ("System.Nullable" : Text).toList ++ [.scalar '<'] := by
  decide

/-- A text begins like an application of the nullable type only if its head is that type. -/
theorem prefix_nullable_iff {head rest : List Point} (noOpening : .scalar '<' ∉ head) :
    ("System.Nullable<" : Text).toList <+: head ++ .scalar '<' :: rest ↔
      head = ("System.Nullable" : Text).toList := by
  rw [toList_nullable]
  constructor
  · rintro ⟨behind, shape⟩
    rw [List.append_assoc, List.singleton_append] at shape
    have count :
        ("System.Nullable" : Text).toList.count (.scalar '<') = head.count (.scalar '<') := by
      rw [List.count_eq_zero.mpr noOpening]
      decide
    exact (append_separator_inj shape count).1.symm
  · rintro rfl
    exact ⟨rest, by rw [List.append_assoc, List.singleton_append]⟩

theorem readChars_nullable {text inside : List Point}
    (shape : trim text =
      ("System.Nullable" : Text).toList ++ .scalar '<' :: inside ++ [.scalar '>']) :
    readChars text = .error ⟨Text.ofList (trim text), .nullableApplication⟩ := by
  have filled : (trim text).isEmpty = false := by simp [shape]
  have closing : (trim text).getLast? = some (.scalar '>') := by rw [shape, List.getLast?_concat]
  have noArray : arrayElement? (trim text) = none := by
    rw [Option.eq_none_iff_forall_ne_some]
    intro element isArray
    rw [arrayElement?_eq_some_iff.mp isArray] at closing
    simp at closing
  have marked : ("System.Nullable<" : Text).toList.isPrefixOf (trim text) = true := by
    rw [List.isPrefixOf_iff_prefix, shape, List.append_assoc, List.cons_append]
    exact (prefix_nullable_iff (by decide)).mpr rfl
  rw [readChars]
  simp only [filled, Bool.false_eq_true, if_false]
  split
  next element isArray => cases noArray.symm.trans isArray
  next => rw [marked, closing, Bool.true_and, if_pos (by decide)]

/-! ## Reading what was printed -/

variable {tree : TypeTree} {head : List Point} {trees : List TypeTree}

theorem readChars_print_array (formed : IsWellFormed tree) :
    readChars (TypeTree.array tree).print.toList = (readChars tree.print.toList).map .array := by
  have shape := trim_of_isTrimmed (isArgument_print formed).array.trimmed
  rw [TypeTree.print, Text.toList_append]
  exact readChars_array shape

/-- A printed application stands trimmed between its head and its last bracket. -/
theorem trim_print_generic (formed : IsWellFormed (.generic (Text.ofList head) trees)) :
    trim (TypeTree.generic (Text.ofList head) trees).print.toList =
      head ++ .scalar '<' :: [.scalar ','].intercalate (spaced (trees.map (·.print.toList))) ++
        [.scalar '>'] := by
  rw [trim_of_isTrimmed (isArgument_print formed).trimmed, toList_print_generic,
    Text.toList_ofList]

/-- The arguments of a printed application are read one by one, unless it is refused. -/
theorem readChars_print_generic (dotted : IsDottedName head) (nonempty : trees ≠ [])
    (each : ∀ tree ∈ trees, IsWellFormed tree) (other : head ≠ ("System.Nullable" : Text).toList) :
    readChars (TypeTree.generic (Text.ofList head) trees).print.toList =
      (trees.mapM fun tree => readChars tree.print.toList).map (.generic (Text.ofList head)) := by
  have arguments : ∀ text ∈ trees.map (·.print.toList), IsArgument text :=
    List.forall_mem_map.mpr fun tree member => isArgument_print (each tree member)
  have noOpening : .scalar '<' ∉ head := dotted.notMem (by decide) (by decide)
  have name : trim head = head := trim_of_isTrimmed dotted.isTrimmed
  have whole := trim_print_generic (.generic dotted nonempty each)
  have unmarked : ¬("System.Nullable<" : Text).toList <+:
      trim (TypeTree.generic (Text.ofList head) trees).print.toList := by
    rw [whole, List.append_assoc, List.cons_append, prefix_nullable_iff noOpening]
    exact other
  have qualified : isQualifiedName (trim head) = true := by
    rw [name]
    exact isQualifiedName_iff.mpr dotted
  have separated := splitArguments_spaced arguments (by simpa using nonempty)
  rw [readChars_generic whole noOpening unmarked separated qualified
    fun text member => (arguments text member).filled, name, List.mapM_map]
  rfl

/-- Without the nullable type among its names a printed expression is read again. -/
theorem readChars_print (formed : IsWellFormed tree) (free : nullableUse ∉ tree.nameUses) :
    readChars tree.print.toList = .ok tree.aliased := by
  induction formed with
  | named dotted =>
      have name := dotted.aliasOf
      have trimmed := trim_of_isTrimmed name.isTrimmed
      rw [TypeTree.print, TypeTree.aliased,
        readChars_qualifiedName (trimmed.symm ▸ isQualifiedName_iff.mpr name), trimmed,
        Text.ofList_toList]
  | array element ih =>
      rw [TypeTree.nameUses] at free
      rw [readChars_print_array element, ih free, TypeTree.aliased]
      rfl
  | @generic head trees dotted nonempty each ih =>
      rw [TypeTree.nameUses, List.mem_cons, not_or, nullableUse_eq_iff, and_iff_left rfl] at free
      have results : (trees.mapM fun tree => readChars tree.print.toList) =
          .ok (trees.map TypeTree.aliased) := by
        rw [mapM_eq_ok_iff, List.forall₂_map_right_iff, List.forall₂_same]
        intro tree member
        exact ih tree member fun uses =>
          free.2 (List.mem_flatten_of_mem (List.mem_map_of_mem member) uses)
      rw [readChars_print_generic dotted nonempty each free.1, results, TypeTree.aliased]
      rfl

/-- With the nullable type among its names a printed expression is refused. -/
theorem exists_readChars_print_eq_error (formed : IsWellFormed tree)
    (uses : nullableUse ∈ tree.nameUses) :
    ∃ part, readChars tree.print.toList = .error ⟨part, .nullableApplication⟩ := by
  induction formed with
  | @named name _ =>
      rw [TypeTree.nameUses, List.mem_singleton, nullableUse_eq_iff] at uses
      cases uses.2
  | array element ih =>
      rw [TypeTree.nameUses] at uses
      obtain ⟨part, refused⟩ := ih uses
      refine ⟨part, ?_⟩
      rw [readChars_print_array element, refused]
      rfl
  | @generic head trees dotted nonempty each ih =>
      by_cases nullable : head = ("System.Nullable" : Text).toList
      · subst nullable
        exact ⟨_, readChars_nullable (trim_print_generic (.generic dotted nonempty each))⟩
      · rw [TypeTree.nameUses, List.mem_cons, nullableUse_eq_iff, and_iff_left rfl,
          or_iff_right nullable] at uses
        obtain ⟨_, listed, used⟩ := List.mem_flatten.mp uses
        obtain ⟨tree, member, rfl⟩ := List.mem_map.mp listed
        obtain ⟨part, refused⟩ := ih tree member used
        have fails : ∃ fault, (trees.mapM fun tree => readChars tree.print.toList) = .error fault :=
          mapM_eq_error_iff.mpr ⟨tree, member, _, refused⟩
        obtain ⟨fault, failed⟩ := fails
        -- The fault is that of the first argument that is refused, which uses the type as well.
        obtain ⟨_, first, _, split, _, here⟩ := mapM_eq_error_iff_first.mp failed
        have inTrees : first ∈ trees := by simp [split]
        have usesToo : nullableUse ∈ first.nameUses := by
          by_contra free
          cases here.symm.trans (readChars_print (each first inTrees) free)
        obtain ⟨innermost, told⟩ := ih first inTrees usesToo
        cases here.symm.trans told
        refine ⟨innermost, ?_⟩
        rw [readChars_print_generic dotted nonempty each nullable, failed]
        rfl

/-! ## Canonical forms -/

/-- Whether blanks somewhere in a text keep the nullable type from the bracket behind it. -/
def HidesNullable (text : List Point) : Prop :=
  ∃ blanks, blanks ≠ [] ∧ AreBlank blanks ∧
    ("System.Nullable" : Text).toList ++ blanks ++ [.scalar '<'] <:+: text

theorem HidesNullable.mono {part text : List Point} (hides : HidesNullable part)
    (inside : part <:+: text) : HidesNullable text := by
  obtain ⟨blanks, filled, blank, found⟩ := hides
  exact ⟨blanks, filled, blank, found.trans inside⟩

theorem isInfix_trim (text : List Point) : trim text <:+: text := by
  obtain ⟨before, after, _, _, around⟩ := exists_blanks_around_trim text
  exact ⟨before, after, around.symm⟩

/-- The nullable type is among the names of a type expression only where it is hidden. -/
theorem hidesNullable_of_spells {text : List Point} (spells : Spells text tree)
    (uses : nullableUse ∈ tree.nameUses) : HidesNullable text := by
  induction spells with
  | named _ dotted =>
      rw [TypeTree.nameUses, List.mem_singleton, nullableUse_eq_iff] at uses
      cases uses.2
  | @array text element tree shape _ ih =>
      rw [TypeTree.nameUses] at uses
      have inside : element <:+: trim text := shape ▸ (List.prefix_append _ _).isInfix
      exact (ih uses).mono (inside.trans (isInfix_trim text))
  | @generic text head blanks arguments trees shape dotted blank notNullable _ lengths _ ih =>
      refine HidesNullable.mono ?_ (isInfix_trim text)
      rw [TypeTree.nameUses, List.mem_cons, nullableUse_eq_iff, and_iff_left rfl] at uses
      rw [shape]
      rcases uses with rfl | later
      · refine ⟨blanks, ?_, blank, [], [.scalar ','].intercalate arguments ++ [.scalar '>'],
          by simp⟩
        rintro rfl
        apply notNullable
        rw [shape, List.append_nil, List.append_assoc, List.cons_append]
        exact (prefix_nullable_iff (by decide)).mpr rfl
      · obtain ⟨_, listed, used⟩ := List.mem_flatten.mp later
        obtain ⟨tree, member, rfl⟩ := List.mem_map.mp listed
        have each : ∀ tree ∈ trees, nullableUse ∈ tree.nameUses →
            ∃ argument ∈ arguments, HidesNullable argument :=
          forall_of_forall_zip lengths fun argument tree paired uses =>
            ⟨argument, (List.of_mem_zip paired).1, ih argument tree paired uses⟩
        obtain ⟨argument, inArguments, hides⟩ := each tree member used
        have inside : [.scalar ','].intercalate arguments <:+:
            head ++ blanks ++ .scalar '<' :: [.scalar ','].intercalate arguments ++ [.scalar '>'] :=
          ⟨head ++ blanks ++ [.scalar '<'], [.scalar '>'], by simp⟩
        exact hides.mono ((infix_intercalate inArguments).trans inside)

theorem nullableUse_mem_aliased_iff :
    nullableUse ∈ tree.aliased.nameUses ↔ nullableUse ∈ tree.nameUses := by
  have same (use : NameUse) : nullableUse = use.aliased ↔ nullableUse = use := by
    obtain ⟨name, isApplied⟩ := use
    cases isApplied with
    | true => exact Iff.rfl
    | false =>
        have applied (other : NameUse) (unapplied : other.isApplied = false) :
            nullableUse ≠ other := by
          rintro rfl
          cases unapplied
        exact iff_of_false (applied _ rfl) (applied _ rfl)
  simp only [nameUses_aliased, List.mem_map, @eq_comm _ _ nullableUse, same, exists_eq_right']

/-- A canonical type name is its own canonical form, unless it applies the nullable type.  Then it
is refused when it is read again.  It applies that type exactly if the name did that it was made
from, and such a name was accepted because of blanks in front of a bracket. -/
theorem canonical_of_canonical {text printed : Text} (accepted : canonical text = .ok printed) :
    (canonical printed = .ok printed ↔ nullableUse ∉ nameUses text.toList) ∧
    (nullableUse ∈ nameUses text.toList →
      ∃ part, canonical printed = .error ⟨part, .nullableApplication⟩) ∧
    (nullableUse ∈ nameUses printed.toList ↔ nullableUse ∈ nameUses text.toList) ∧
    (nullableUse ∈ nameUses text.toList → HidesNullable text.toList) := by
  obtain ⟨tree, spells, rfl⟩ := canonical_eq_ok_iff.mp accepted
  have formed := spells.isWellFormed
  rw [(hasUses_of_spells spells).nameUses_eq, (hasUses_print formed).nameUses_eq]
  have refused (uses : nullableUse ∈ tree.nameUses) :
      ∃ part, canonical tree.print = .error ⟨part, .nullableApplication⟩ := by
    obtain ⟨part, failed⟩ := exists_readChars_print_eq_error formed uses
    exact ⟨part, map_eq_error_iff.mpr failed⟩
  refine ⟨⟨fun again uses => ?_, fun free => ?_⟩, refused, nullableUse_mem_aliased_iff,
    hidesNullable_of_spells spells⟩
  · obtain ⟨part, failed⟩ := refused uses
    cases again.symm.trans failed
  · exact map_eq_ok_iff.mpr ⟨tree.aliased, readChars_print formed free, print_aliased tree⟩

/-- A blank hides the application of the nullable type to integers, which is refused without it. -/
theorem canonical_of_canonical_hidden :
    canonical "System.Nullable <int>" = .ok "System.Nullable<int>" ∧
      ∃ part, canonical "System.Nullable<int>" = .error ⟨part, .nullableApplication⟩ := by
  have head : IsDottedName ("System.Nullable" : Text).toList := isQualifiedName_iff.mp (by decide)
  have shape : trim ("System.Nullable <int>" : Text).toList =
      ("System.Nullable" : Text).toList ++ [.scalar ' '] ++ .scalar '<' ::
        [.scalar ','].intercalate [("int" : Text).toList] ++ [.scalar '>'] := by
    decide
  have blank : AreBlank [.scalar ' '] := by
    rw [AreBlank, List.forall_mem_singleton]
    decide
  have integer : Spells ("int" : Text).toList (.named (Text.ofList ("int" : Text).toList)) :=
    .named (by decide) (isQualifiedName_iff.mp (by decide))
  have arguments : ∀ argument tree,
      (argument, tree) ∈ [("int" : Text).toList].zip [.named (Text.ofList ("int" : Text).toList)] →
        Spells argument tree := by
    intro argument tree paired
    cases List.mem_singleton.mp paired
    exact integer
  have spells := Spells.generic shape head blank (by decide) (by decide) rfl arguments
  have printed : (TypeTree.generic "System.Nullable" [.named "int"]).print =
      "System.Nullable<int>" := by
    simp only [TypeTree.print, List.map_cons, List.map_nil]
    decide
  have accepted : canonical "System.Nullable <int>" = .ok "System.Nullable<int>" :=
    canonical_eq_ok_iff.mpr ⟨_, spells, printed⟩
  exact ⟨accepted, (canonical_of_canonical accepted).2.1 (by decide)⟩

end EntityForge.TypeName
