import EntityForge.Proofs.Code.Documentation

/-!
# The layout of class files

The lines of a class are the same under every layout.  How far a line is indented depends on its
depth and on the spaces of a level only, and a namespace with braces puts all lines one level deeper
than a namespace declaration does.
-/

namespace EntityForge

open EntityForge.Identifier
open EntityForge.Layout

namespace Layout

theorem render_eq_indented (unit : Nat) (lines : List Line) :
    render unit lines = indented unit 0 lines :=
  rfl

theorem indented_cons (unit base : Nat) (line : Line) (rest : List Line) :
    indented unit base (line :: rest) = indented unit base [line] ++ indented unit base rest :=
  indented_append unit base [line] rest

/-- A line that is not nested carries no spaces. -/
theorem indented_outermost (unit : Nat) {text : Text} (filled : text.isEmpty = false) :
    indented unit 0 [.flat text] = text ++ "\n" := by
  rw [indented_flat, filled, Nat.mul_zero]
  exact congrArg (fun spaced : Text => spaced ++ "\n") Text.empty_append

end Layout

/-! ## Files -/

namespace Entity

variable {entity : Entity} {options : GeneratorOptions}

/-- No line of a class holds a line feed, also where the documentation does. -/
theorem isSingle_classLines {nullableMode : Bool} {plan : ClassPlan}
    (planned : entity.plan nullableMode = .ok plan) (document : Bool) :
    ∀ line ∈ entity.classLines document plan, line.IsSingle := by
  cases document with
  | true => exact (annotates_class planned).isSingle
  | false => exact (annotates_class planned).isSingle_plain

/-- The frame of a file around the lines of its class. -/
theorem render_fileLines (entity : Entity) (fileScoped : Bool) (unit : Nat) (lines : List Line) :
    render unit (entity.fileLines fileScoped lines) =
      if fileScoped then
        "namespace " ++ safeQualifiedName entity.entityNamespace ++ ";\n\n" ++ indented unit 0 lines
      else
        "namespace " ++ safeQualifiedName entity.entityNamespace ++ "\n\x7b\n" ++
          indented unit 1 lines ++ "\x7d\n" := by
  have declaration :
      indented unit 0 [.flat ("namespace " ++ safeQualifiedName entity.entityNamespace ++ ";")] =
        "namespace " ++ safeQualifiedName entity.entityNamespace ++ ";" ++ "\n" :=
    indented_outermost unit (by simp)
  have heading :
      indented unit 0 [.flat ("namespace " ++ safeQualifiedName entity.entityNamespace)] =
        "namespace " ++ safeQualifiedName entity.entityNamespace ++ "\n" :=
    indented_outermost unit (by simp)
  have opening : indented unit 0 [.flat "\x7b"] = "\x7b\n" := indented_outermost unit rfl
  have closing : indented unit 0 [.flat "\x7d"] = "\x7d\n" := indented_outermost unit rfl
  have blank : indented unit 0 [.blank] = "\n" := indented_flat unit 0 ""
  rw [render_eq_indented]
  cases fileScoped with
  | true =>
      have ending : (";\n\n" : Text) = ";" ++ "\n" ++ "\n" := rfl
      rw [fileLines, if_pos rfl, if_pos rfl, indented_cons, indented_cons unit 0 .blank,
        declaration, blank, ending]
      simp only [Text.append_assoc]
  | false =>
      have ending : ("\n\x7b\n" : Text) = "\n" ++ "\x7b\n" := rfl
      rw [fileLines, if_neg Bool.false_ne_true, if_neg Bool.false_ne_true, indented_cons, braced,
        List.cons_append, indented_cons unit 0 (.flat "\x7b"), indented_append, indented_nest,
        heading, opening, closing, ending]
      simp only [Text.append_assoc]

/-- Whatever the layout, a file has the same lines: under a namespace declaration as they stand, and
between the braces of a namespace one level deeper. -/
theorem layout_of_synthesize {code : Text} (run : entity.synthesize options = .ok code) :
    ∃ name lines, .scalar '\n' ∉ name.toList ∧ (∀ line ∈ lines, line.IsSingle) ∧
      ∀ other : GeneratorOptions,
        other.document = options.document → other.nullable = options.nullable →
        entity.synthesize other = .ok
          (if other.fileScopedNamespace then
            "namespace " ++ name ++ ";\n\n" ++ indented other.indentSize 0 lines
          else
            "namespace " ++ name ++ "\n\x7b\n" ++ indented other.indentSize 1 lines ++
              "\x7d\n") := by
  obtain ⟨valid, plan, planned, _⟩ := synthesize_eq_ok_iff.mp run
  refine ⟨safeQualifiedName entity.entityNamespace, entity.classLines options.document plan,
    newline_notMem_safeQualifiedName _, isSingle_classLines planned options.document, ?_⟩
  intro other sameDocument sameNullable
  rw [← render_fileLines, synthesize_eq_ok_iff, sameDocument, sameNullable]
  exact ⟨valid, plan, planned, rfl⟩

/-- The same lines make the flattest file with a namespace declaration and the widest one with
braces, where the column of the key spills out of its comment. -/
theorem layout_of_synthesize_orderKeyedOn :
    ∃ name lines, (∀ line ∈ lines, line.IsSingle) ∧
      (orderKeyedOn "order\n\nid").synthesize
          { document := true, fileScopedNamespace := true, indentSize := 1 } =
        .ok ("namespace " ++ name ++ ";\n\n" ++ indented 1 0 lines) ∧
      (orderKeyedOn "order\n\nid").synthesize { document := true, indentSize := 8 } =
        .ok ("namespace " ++ name ++ "\n\x7b\n" ++ indented 8 1 lines ++ "\x7d\n") := by
  have valid : (orderKeyedOn "order\n\nid").IsValid := by
    unfold IsValid
    decide
  obtain ⟨code, run⟩ :=
    exists_synthesize_of_isQualifiedName { document := true } valid (by decide)
  obtain ⟨name, lines, _, single, same⟩ := layout_of_synthesize run
  exact ⟨name, lines, single, same _ rfl rfl, same _ rfl rfl⟩

end Entity

end EntityForge
