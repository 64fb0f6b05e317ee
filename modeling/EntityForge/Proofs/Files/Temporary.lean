import EntityForge.Files.Write
import EntityForge.Proofs.Files.Places
import Mathlib.Data.List.Nodup
import Mathlib.Data.List.Perm.Subperm

/-!
# Temporary files

The temporary file for a target stands beside it.  Whichever name is tried first, as there are more
names for it than there are files, one of them is always free.
-/

namespace EntityForge.Files

/-- The name of a temporary file is no way back. -/
theorem temporaryName_ne (name : Text) (attempt : Nat) : temporaryName name attempt ≠ ".." := by
  intro same
  have lastCharacter := congrArg (fun name => name.toList.reverse.head?) same
  simp [temporaryName] at lastCharacter

/-- Every attempt has a name of its own. -/
theorem temporaryName_inj {name : Text} {left right : Nat}
    (same : temporaryName name left = temporaryName name right) : left = right := by
  simp only [temporaryName, Text.append_assoc, Text.append_right_inj, Text.append_left_inj,
    Text.ofString_inj, String.ofList_inj] at same
  have number (attempt : Nat) : Nat.ofDigitChars 10
      (List.replicate (8 - (Nat.toDigits 10 attempt).length) '0' ++ Nat.toDigits 10 attempt) 0 =
        attempt := by
    rw [Nat.ofDigitChars_append, Nat.ofDigitChars_replicate_zero, Nat.mul_zero,
      Nat.ofDigitChars_ten_toDigits]
  rw [← number left, same, number]

namespace Tree

variable {tree : Tree} {target : Path} {place : List Text}

/-- The candidates for a temporary file are more than what stands in the tree. -/
theorem exists_free (tree : Tree) (target directory : Path) (first : Nat) :
    ∃ attempt ∈ List.range' first (tree.nodes.length + 1),
      tree.at? (directory.child (temporaryName target.name attempt)).parts = none := by
  by_contra taken
  let places := (List.range' first (tree.nodes.length + 1)).map fun attempt =>
    (directory.child (temporaryName target.name attempt)).parts
  have distinct : places.Nodup := by
    refine List.Nodup.map_on ?_ List.nodup_range'
    intro left _ right _ same
    rw [Path.child, Path.child, List.append_cancel_left_eq, List.singleton_inj] at same
    exact temporaryName_inj same
  have stand : places ⊆ tree.nodes.map Prod.fst := by
    intro place member
    obtain ⟨attempt, inRange, rfl⟩ := List.mem_map.mp member
    by_contra absent
    refine taken ⟨attempt, inRange, ?_⟩
    have proper : (directory.child (temporaryName target.name attempt)).parts ≠ [] := by
      simp [Path.child]
    rw [at?, if_neg (by simpa using proper), List.lookup_eq_none_iff]
    intro node inNodes
    rw [bne_iff_ne]
    intro same
    exact absent (same ▸ List.mem_map_of_mem inNodes)
  have many := (List.subperm_of_subset distinct stand).length_le
  rw [List.length_map, List.length_map, List.length_range'] at many
  exact Nat.not_succ_le_self _ many

/-- The temporary file is beside its target, and nothing stands there yet. -/
theorem exists_temporary_eq (tree : Tree) (target : Path) :
    ∃ attempt,
      tree.temporary target =
        (target.parent.resolve tree.workingDirectory).child (temporaryName target.name attempt) ∧
      tree.at? (tree.temporary target).parts = none := by
  obtain ⟨free, inRange, absent⟩ :=
    exists_free tree target (target.parent.resolve tree.workingDirectory)
      (tree.firstAttempt tree.nodes target)
  rw [temporary]
  cases found : List.find? _ _ with
  | none =>
      rw [List.find?_eq_none] at found
      exact absurd (Option.isNone_iff_eq_none.mpr absent) (found _ (List.mem_map_of_mem inRange))
  | some candidate =>
      have unused := List.find?_some found
      obtain ⟨attempt, _, rfl⟩ := List.mem_map.mp (List.mem_of_find?_eq_some found)
      exact ⟨attempt, rfl, Option.isNone_iff_eq_none.mp unused⟩

/-- A temporary file can only be made where its path says, and there it is new. -/
theorem at?_eq_none_of_temporary (rooted : (".." : Text) ∉ tree.workingDirectory)
    (located : tree.locate (tree.temporary target) = .ok place) :
    place = (tree.temporary target).parts ∧ tree.at? place = none := by
  obtain ⟨attempt, shape, absent⟩ := tree.exists_temporary_eq target
  have plain : (".." : Text) ∉ (tree.temporary target).parts := by
    rw [shape, Path.child, List.mem_append, List.mem_singleton, not_or]
    exact ⟨Path.doubleDots_notMem_place rooted, (temporaryName_ne target.name attempt).symm⟩
  have absolute : (tree.temporary target).isAbsolute = true := by
    rw [shape]
    rfl
  have reached := eq_place_of_locate located
  rw [Path.place_eq_parts absolute plain] at reached
  exact ⟨reached, reached ▸ absent⟩

end Tree

end EntityForge.Files
