import EntityForge.Proofs.Identifier.Legal

/-!
# Legal dotted names

A dotted name is made legal segment by segment.  No segment gains or loses a dot on the way, so that
the legal name has the segments of the original, each of them made legal by itself, and joining
names with a dot may come before or after.  That holds also of the empty name, which is one empty
segment, and of dots at the ends or next to each other.
-/

namespace EntityForge.Identifier

open EntityForge.Text

theorem dot_notMem_safeName (name : Text) : .scalar '.' ∉ (safeName name).toList :=
  notMem_safeName (by decide) name

/-- The segments of a legal dotted name are those of the original, made legal one by one. -/
theorem pieces_safeQualifiedName (name : Text) :
    pieces '.' (safeQualifiedName name) = (pieces '.' name).map safeName := by
  apply pieces_intercalate_dot
  · rw [ne_eq, List.map_eq_nil_iff]
    exact pieces_ne_nil '.' name
  · exact List.forall_mem_map.mpr fun segment _ => dot_notMem_safeName segment

/-- Names may be joined before or after they are made legal. -/
theorem safeQualifiedName_append_dot (front back : Text) :
    safeQualifiedName (front ++ "." ++ back) =
      safeQualifiedName front ++ "." ++ safeQualifiedName back := by
  have nonempty (name : Text) : (pieces '.' name).map safeName ≠ [] := by
    rw [ne_eq, List.map_eq_nil_iff]
    exact pieces_ne_nil '.' name
  rw [safeQualifiedName, pieces_append_dot, List.map_append,
    Text.intercalate_append_of_ne_nil (nonempty front) (nonempty back), ← safeQualifiedName,
    ← safeQualifiedName]

theorem isLegal_of_mem_pieces {name segment : Text}
    (member : segment ∈ pieces '.' (safeQualifiedName name)) : IsLegal segment := by
  rw [pieces_safeQualifiedName] at member
  obtain ⟨original, _, rfl⟩ := List.mem_map.mp member
  exact isLegal_safeName original

/-- The names that stay are those of legal segments only. -/
theorem safeQualifiedName_eq_self_iff {name : Text} :
    safeQualifiedName name = name ↔ ∀ segment ∈ pieces '.' name, IsLegal segment := by
  constructor
  · intro same segment member
    rw [← same] at member
    exact isLegal_of_mem_pieces member
  · intro legal
    have kept : (pieces '.' name).map safeName = (pieces '.' name).map id :=
      List.map_congr_left fun segment member => safeName_of_isLegal (legal segment member)
    rw [safeQualifiedName, kept, List.map_id, intercalate_pieces]

/-- Making dotted names legal is a homomorphism of their segments: a dot between two names stays
where it is, and of every name the segments are made legal one by one.  Their number stays, each of
them is an identifier that is not reserved or an escaped keyword, and a second run changes
nothing. -/
theorem safeQualifiedName_homomorphism :
    (∀ front back, safeQualifiedName (front ++ "." ++ back) =
      safeQualifiedName front ++ "." ++ safeQualifiedName back) ∧
    ∀ name,
      pieces '.' (safeQualifiedName name) = (pieces '.' name).map safeName ∧
      (pieces '.' (safeQualifiedName name)).length = (pieces '.' name).length ∧
      (∀ segment ∈ pieces '.' (safeQualifiedName name), IsLegal segment) ∧
      (safeQualifiedName name = name ↔ ∀ segment ∈ pieces '.' name, IsLegal segment) ∧
      safeQualifiedName (safeQualifiedName name) = safeQualifiedName name := by
  refine ⟨safeQualifiedName_append_dot, fun name => ?_⟩
  have segments := pieces_safeQualifiedName name
  have legal : ∀ segment ∈ pieces '.' (safeQualifiedName name), IsLegal segment :=
    fun _ => isLegal_of_mem_pieces
  refine ⟨segments, ?_, legal, safeQualifiedName_eq_self_iff,
    safeQualifiedName_eq_self_iff.mpr legal⟩
  rw [segments, List.length_map]

/-- Empty segments become underscores, and an escaped keyword stays. -/
example : safeQualifiedName "" = "_" ∧ safeQualifiedName ".." = "_._._" ∧
    safeQualifiedName "@class.new." = "@class.@new._" := by
  decide

end EntityForge.Identifier
