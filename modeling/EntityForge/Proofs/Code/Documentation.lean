import EntityForge.Proofs.Code.Rendering

/-!
# Documentation of generated classes

Documentation adds nothing but comments as long as the names of the table and of the columns stay
inside them: a line feed in such a name begins a line that stands in the code as it is.
-/

namespace EntityForge

open EntityForge.Layout

namespace Entity

/-- Documentation adds nothing but comments, exactly if the names of the table and of the columns
stay in their comments.  All other names are made legal before they are documented. -/
theorem withoutComments_synthesize_iff {entity : Entity} {options : GeneratorOptions}
    {code : Text} (run : entity.synthesize { options with document := true } = .ok code) :
    ∃ plain, entity.synthesize { options with document := false } = .ok plain ∧
      (withoutComments code = plain ↔
        StaysInComment entity.documentedTable ∧
          ∀ property ∈ entity.properties, StaysInComment property.columnName) := by
  obtain ⟨valid, plan, planned, rfl⟩ := synthesize_eq_ok_iff.mp run
  refine ⟨_, synthesize_eq_ok_iff.mpr ⟨valid, plan, planned, rfl⟩, ?_⟩
  have annotates := entity.annotates_file options.fileScopedNamespace (annotates_class planned)
  rw [← strays_eq_zero_iff]
  exact annotates.withoutComments_render_eq_iff options.indentSize

/-- Orders with a key that is stored in a column of a given name. -/
def orderKeyedOn (columnName : Text) : Entity where
  entityNamespace := "Shop"
  entityClass := "Order"
  tableName := "orders"
  properties := [{ propertyName := "Id", columnName, systemType := ⟨"int", none⟩ }]

/-- A column with a line feed in its name spills out of the comment. -/
theorem withoutComments_synthesize_orderKeyedOn :
    ∃ code plain,
      (orderKeyedOn "order\nid").synthesize { document := true, fileScopedNamespace := true } =
        .ok code ∧
      (orderKeyedOn "order\nid").synthesize { document := false, fileScopedNamespace := true } =
        .ok plain ∧
      withoutComments code ≠ plain := by
  have valid : (orderKeyedOn "order\nid").IsValid := by
    unfold IsValid
    decide
  have printable : ∀ property ∈ (orderKeyedOn "order\nid").properties,
      property.systemType.IsPrintable :=
    List.forall_mem_singleton.mpr (SystemType.isPrintable_of_isQualifiedName (by decide))
  let options : GeneratorOptions := { fileScopedNamespace := true }
  obtain ⟨code, run⟩ : ∃ code, (orderKeyedOn "order\nid").synthesize
      { options with document := true } = .ok code :=
    exists_synthesize_iff.mpr ⟨valid, printable⟩
  obtain ⟨plain, plainRun, same⟩ := withoutComments_synthesize_iff run
  refine ⟨code, plain, run, plainRun, ?_⟩
  rw [Ne, same]
  decide

end Entity

end EntityForge
