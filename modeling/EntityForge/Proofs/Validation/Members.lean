import EntityForge.Proofs.Validation.Entity
import Mathlib.Data.Finset.Card

/-!
# Findings on member names

The scan over the members carries the names that it has met along.  What it finds at a member is
settled by the members before it alone: a blank one is left aside, and any other one is compared
with the first member of the same legal name.  So the errors of each kind can be counted without
the scan, and no order of the members changes their number.
-/

namespace EntityForge

open EntityForge.Identifier
open EntityForge.Text (isBlankText)

/-- The number of errors of a code. -/
def Diagnostics.errorCount (diagnostics : Diagnostics) (code : Text) : Nat :=
  diagnostics.errors.countP fun item => item.code == code

/-- Whether a finding is an error of a code. -/
def Finding.isErrorOf (code : Text) (finding : Finding) : Bool :=
  finding.isError && finding.code == code

theorem errorCount_ofFindings (findings : List Finding) (code : Text) :
    (Diagnostics.ofFindings findings).errorCount code =
      findings.countP (Finding.isErrorOf code) := by
  rw [Diagnostics.errorCount, Diagnostics.errors, Diagnostics.ofFindings, List.countP_filter,
    List.countP_map]
  refine List.countP_congr fun finding _ => ?_
  rw [Finding.isErrorOf, Bool.and_comm]
  exact Iff.rfl

namespace Entity

/-- The members that are not blank. -/
def named (members : List Text) : List Text :=
  members.filter fun member => !isBlankText member

/-- The first member of a legal name that is not blank. -/
def firstNamed? (name : Text) (members : List Text) : Option Text :=
  (named members).find? fun member => safeName member == name

/-- The legal names of the members that are not blank. -/
def legalNames (members : List Text) : Finset Text :=
  ((named members).map safeName).toFinset

section Named

variable {member : Text} {members : List Text}

theorem named_cons_of_blank (blank : isBlankText member = true) :
    named (member :: members) = named members := by
  simp [named, blank]

theorem named_cons_of_named (isNamed : isBlankText member = false) :
    named (member :: members) = member :: named members := by
  simp [named, isNamed]

theorem named_append (front back : List Text) :
    named (front ++ back) = named front ++ named back :=
  List.filter_append ..

theorem mem_named_iff : member ∈ named members ↔ member ∈ members ∧ isBlankText member = false := by
  simp [named]

theorem legalNames_append (front back : List Text) :
    legalNames (front ++ back) = legalNames front ∪ legalNames back := by
  rw [legalNames, named_append, List.map_append, List.toFinset_append, legalNames, legalNames]

theorem mem_legalNames_iff {name : Text} :
    name ∈ legalNames members ↔ ∃ member ∈ named members, safeName member = name := by
  rw [legalNames, List.mem_toFinset, List.mem_map]

theorem legalNames_of_blank (blank : isBlankText member = true) : legalNames [member] = ∅ := by
  rw [legalNames, named_cons_of_blank blank]
  rfl

theorem legalNames_of_named (isNamed : isBlankText member = false) :
    legalNames [member] = {safeName member} := by
  rw [legalNames, named_cons_of_named isNamed]
  rfl

theorem firstNamed?_append (name : Text) (front back : List Text) :
    firstNamed? name (front ++ back) = (firstNamed? name front).or (firstNamed? name back) := by
  rw [firstNamed?, named_append, List.find?_append, firstNamed?, firstNamed?]

/-- A member that is not blank is the first of its legal name at most. -/
theorem firstNamed?_of_named (isNamed : isBlankText member = false) (name : Text) :
    firstNamed? name [member] = if safeName member = name then some member else none := by
  rw [firstNamed?, named_cons_of_named isNamed]
  split
  next same => exact List.find?_cons_of_pos (by simpa using same)
  next other => exact List.find?_cons_of_neg (by simpa using other)

theorem firstNamed?_of_blank (blank : isBlankText member = true) (name : Text) :
    firstNamed? name [member] = none := by
  rw [firstNamed?, named_cons_of_blank blank]
  rfl

theorem firstNamed?_eq_none_iff {name : Text} :
    firstNamed? name members = none ↔ name ∉ legalNames members := by
  rw [firstNamed?, List.find?_eq_none, mem_legalNames_iff]
  simp

theorem mem_legalNames_of_firstNamed? {name first : Text}
    (found : firstNamed? name members = some first) : name ∈ legalNames members := by
  by_contra absent
  cases found.symm.trans (firstNamed?_eq_none_iff.mpr absent)

end Named

/-! ## What is found at a member -/

/-- The findings at a member behind others. -/
def memberVerdict (entity : Entity) (before : List Text) (member : Text) : List Finding :=
  if isBlankText member then [.emptyMemberName entity.entityClass member]
  else
    match firstNamed? (safeName member) before with
    | some first =>
        [.duplicateMemberName entity.entityClass first member (safeName member)]
    | none =>
        if safeName member == entity.className then
          [.memberNamedLikeClass entity.entityClass member entity.className]
        else []

/-- The findings at some members behind others. -/
def memberVerdicts (entity : Entity) (before : List Text) : List Text → List Finding
  | [] => []
  | member :: rest =>
      entity.memberVerdict before member ++ entity.memberVerdicts (before ++ [member]) rest

variable {entity : Entity}

/-- The scan finds at each member what the members before it settle, as long as it has met these. -/
theorem memberFindingsFrom_eq {seen : List (Text × Text)} {before members : List Text}
    (met : ∀ name, seen.lookup name = firstNamed? name before) :
    entity.memberFindingsFrom seen members = entity.memberVerdicts before members := by
  induction members generalizing seen before with
  | nil => rfl
  | cons member rest ih =>
      rw [memberFindingsFrom, memberVerdicts, memberVerdict, met]
      split
      next blank =>
        -- A blank member is not kept.
        have later : ∀ name, seen.lookup name = firstNamed? name (before ++ [member]) := by
          intro name
          rw [met, firstNamed?_append, firstNamed?_of_blank blank, Option.or_none]
        rw [ih later]
        rfl
      next isNamed =>
        rw [Bool.not_eq_true] at isNamed
        cases found : firstNamed? (safeName member) before with
        | some first =>
            -- The first member of the name stays the one that is kept.
            have later : ∀ name, seen.lookup name = firstNamed? name (before ++ [member]) := by
              intro name
              rw [met, firstNamed?_append, firstNamed?_of_named isNamed]
              split
              next same => rw [← same, found, Option.some_or]
              next => rw [Option.or_none]
            dsimp only
            rw [ih later]
            rfl
        | none =>
            have later : ∀ name, ((safeName member, member) :: seen).lookup name =
                firstNamed? name (before ++ [member]) := by
              intro name
              rw [List.lookup_cons, met, firstNamed?_append, firstNamed?_of_named isNamed]
              by_cases same : name = safeName member
              · subst same
                simp [found]
              · simp [beq_false_of_ne same, Ne.symm same]
            dsimp only
            rw [ih later]
            rfl

theorem memberFindings_eq (entity : Entity) :
    entity.memberFindings = entity.memberVerdicts [] entity.memberNames :=
  memberFindingsFrom_eq fun _ => rfl

/-- Every finding is one at some member. -/
theorem exists_of_mem_memberVerdicts {finding : Finding} {before members : List Text}
    (found : finding ∈ entity.memberVerdicts before members) :
    ∃ front member back, members = front ++ member :: back ∧
      finding ∈ entity.memberVerdict (before ++ front) member := by
  induction members generalizing before with
  | nil => cases found
  | cons member rest ih =>
      rw [memberVerdicts] at found
      rcases List.mem_append.mp found with here | later
      · exact ⟨[], member, rest, rfl, by rwa [List.append_nil]⟩
      · obtain ⟨front, other, back, shape, there⟩ := ih later
        refine ⟨member :: front, other, back, by rw [shape, List.cons_append], ?_⟩
        rwa [List.append_cons]

/-- What is found at a member is one of three things, or nothing. -/
theorem mem_memberVerdict_iff {finding : Finding} {before : List Text} {member : Text} :
    finding ∈ entity.memberVerdict before member ↔
      isBlankText member = true ∧ finding = .emptyMemberName entity.entityClass member ∨
      isBlankText member = false ∧
        ((∃ first, firstNamed? (safeName member) before = some first ∧
            finding = .duplicateMemberName entity.entityClass first member (safeName member)) ∨
          firstNamed? (safeName member) before = none ∧ safeName member = entity.className ∧
            finding = .memberNamedLikeClass entity.entityClass member entity.className) := by
  rw [memberVerdict]
  cases blank : isBlankText member with
  | true => simp
  | false =>
      cases found : firstNamed? (safeName member) before with
      | some first => simp
      | none => by_cases same : safeName member = entity.className <;> simp [same]

/-! ## Counting -/

section Count

variable (before : List Text) (member : Text)

theorem count_empty_memberVerdict :
    (entity.memberVerdict before member).countP (Finding.isErrorOf "EMPTY_MEMBER_NAME") =
      if isBlankText member then 1 else 0 := by
  rw [memberVerdict]
  split
  next => rfl
  next =>
    split
    next => rfl
    next => split <;> rfl

theorem count_duplicate_memberVerdict :
    (entity.memberVerdict before member).countP (Finding.isErrorOf "DUPLICATE_MEMBER_NAME") +
        (legalNames (before ++ [member])).card =
      (named [member]).length + (legalNames before).card := by
  rw [memberVerdict, legalNames_append]
  split
  next blank =>
    rw [legalNames_of_blank blank, named_cons_of_blank blank, Finset.union_empty]
    rfl
  next isNamed =>
    rw [Bool.not_eq_true] at isNamed
    rw [legalNames_of_named isNamed, named_cons_of_named isNamed]
    split
    next first found =>
      have known := Finset.singleton_subset_iff.mpr (mem_legalNames_of_firstNamed? found)
      rw [Finset.union_eq_left.mpr known]
      rfl
    next fresh =>
      have unknown := firstNamed?_eq_none_iff.mp fresh
      rw [Finset.union_comm, ← Finset.insert_eq, Finset.card_insert_of_notMem unknown]
      have none : (if safeName member == entity.className then
          [Finding.memberNamedLikeClass entity.entityClass member entity.className]
          else []).countP (Finding.isErrorOf "DUPLICATE_MEMBER_NAME") = 0 := by
        split <;> rfl
      rw [none, Nat.zero_add, Nat.add_comm]
      rfl

theorem count_likeClass_memberVerdict :
    (entity.memberVerdict before member).countP (Finding.isErrorOf "MEMBER_NAMED_LIKE_CLASS") =
      if entity.className ∈ legalNames [member] ∧ entity.className ∉ legalNames before then 1
      else 0 := by
  rw [memberVerdict]
  split
  next blank =>
    rw [legalNames_of_blank blank, if_neg (by simp)]
    rfl
  next isNamed =>
    rw [Bool.not_eq_true] at isNamed
    simp only [legalNames_of_named isNamed, Finset.mem_singleton]
    split
    next first found =>
      have known := mem_legalNames_of_firstNamed? found
      rw [if_neg]
      · rfl
      · rintro ⟨same, unknown⟩
        exact unknown (same ▸ known)
    next fresh =>
      have unknown := firstNamed?_eq_none_iff.mp fresh
      by_cases same : safeName member = entity.className
      · rw [if_pos (beq_iff_eq.mpr same), if_pos ⟨same.symm, same ▸ unknown⟩]
        rfl
      · rw [if_neg (by simpa using same), if_neg fun holds => same holds.1.symm]
        rfl

variable (members : List Text)

theorem count_empty_memberVerdicts :
    (entity.memberVerdicts before members).countP (Finding.isErrorOf "EMPTY_MEMBER_NAME") =
      members.countP isBlankText := by
  induction members generalizing before with
  | nil => rfl
  | cons member rest ih =>
      rw [memberVerdicts, List.countP_append, count_empty_memberVerdict, ih, List.countP_cons,
        Nat.add_comm]

/-- Each member that is not blank is a duplicate or brings a legal name of its own. -/
theorem count_duplicate_memberVerdicts :
    (entity.memberVerdicts before members).countP (Finding.isErrorOf "DUPLICATE_MEMBER_NAME") +
        (legalNames (before ++ members)).card =
      (named members).length + (legalNames before).card := by
  induction members generalizing before with
  | nil => rw [List.append_nil]; rfl
  | cons member rest ih =>
      have here := @count_duplicate_memberVerdict entity before member
      have later := ih (before ++ [member])
      have lengths : (named (member :: rest)).length =
          (named [member]).length + (named rest).length := by
        rw [← List.length_append, ← named_append, List.singleton_append]
      rw [memberVerdicts, List.countP_append, lengths, List.append_cons before member rest]
      omega

/-- Only the first member that is named like the class is told of. -/
theorem count_likeClass_memberVerdicts :
    (entity.memberVerdicts before members).countP (Finding.isErrorOf "MEMBER_NAMED_LIKE_CLASS") =
      if entity.className ∈ legalNames members ∧ entity.className ∉ legalNames before then 1
      else 0 := by
  induction members generalizing before with
  | nil => rw [if_neg (by simp [legalNames, named])]; rfl
  | cons member rest ih =>
      have names : legalNames (member :: rest) = legalNames [member] ∪ legalNames rest := by
        rw [← legalNames_append, List.singleton_append]
      rw [memberVerdicts, List.countP_append, count_likeClass_memberVerdict, ih]
      simp only [names, legalNames_append, Finset.mem_union]
      by_cases here : entity.className ∈ legalNames [member]
      · by_cases known : entity.className ∈ legalNames before <;> simp [here, known]
      · simp [here]

end Count

/-! ## Errors on member names -/

section Errors

variable (entity : Entity)

theorem errorCount_empty :
    (Diagnostics.ofFindings entity.memberFindings).errorCount "EMPTY_MEMBER_NAME" =
      entity.memberNames.countP isBlankText := by
  rw [errorCount_ofFindings, memberFindings_eq, count_empty_memberVerdicts]

theorem errorCount_duplicate :
    (Diagnostics.ofFindings entity.memberFindings).errorCount "DUPLICATE_MEMBER_NAME" =
      (named entity.memberNames).length - (legalNames entity.memberNames).card := by
  have balance := @count_duplicate_memberVerdicts entity [] entity.memberNames
  have none : (legalNames []).card = 0 := rfl
  rw [errorCount_ofFindings, memberFindings_eq]
  rw [List.nil_append] at balance
  omega

theorem errorCount_likeClass :
    (Diagnostics.ofFindings entity.memberFindings).errorCount "MEMBER_NAMED_LIKE_CLASS" =
      if entity.className ∈ legalNames entity.memberNames then 1 else 0 := by
  have none : entity.className ∉ legalNames [] := Finset.notMem_empty _
  rw [errorCount_ofFindings, memberFindings_eq, count_likeClass_memberVerdicts]
  simp only [none, not_false_eq_true, and_true]

variable {entity}

/-- There are three kinds of errors on member names. -/
theorem code_of_mem_memberFindings {finding : Finding} (found : finding ∈ entity.memberFindings) :
    finding.code ∈
      ([ "EMPTY_MEMBER_NAME", "DUPLICATE_MEMBER_NAME", "MEMBER_NAMED_LIKE_CLASS" ] :
        List Text) := by
  rw [memberFindings_eq] at found
  obtain ⟨front, member, back, _, here⟩ := exists_of_mem_memberVerdicts found
  rcases mem_memberVerdict_iff.mp here with
    ⟨_, rfl⟩ | ⟨_, ⟨first, _, rfl⟩ | ⟨_, _, rfl⟩⟩ <;>
    simp [Finding.code]

theorem errorCount_other {code : Text} (other : code ∉
    ([ "EMPTY_MEMBER_NAME", "DUPLICATE_MEMBER_NAME", "MEMBER_NAMED_LIKE_CLASS" ] : List Text)) :
    (Diagnostics.ofFindings entity.memberFindings).errorCount code = 0 := by
  rw [errorCount_ofFindings, List.countP_eq_zero]
  intro finding found
  rw [Finding.isErrorOf, Bool.and_eq_true, beq_iff_eq]
  rintro ⟨_, same⟩
  exact other (same ▸ code_of_mem_memberFindings found)

/-- Entities of one class whose members differ in their order only have equally many errors of each
kind on them. -/
theorem errorCount_perm {other : Entity} (sameClass : other.entityClass = entity.entityClass)
    (reordered : other.memberNames.Perm entity.memberNames) (code : Text) :
    (Diagnostics.ofFindings other.memberFindings).errorCount code =
      (Diagnostics.ofFindings entity.memberFindings).errorCount code := by
  have sameNamed : (named other.memberNames).Perm (named entity.memberNames) := reordered.filter _
  have sameNames : legalNames other.memberNames = legalNames entity.memberNames :=
    List.toFinset_eq_of_perm _ _ (sameNamed.map safeName)
  have className : other.className = entity.className := by rw [className, className, sameClass]
  by_cases known : code ∈
      ([ "EMPTY_MEMBER_NAME", "DUPLICATE_MEMBER_NAME", "MEMBER_NAMED_LIKE_CLASS" ] : List Text)
  · simp only [List.mem_cons, List.not_mem_nil, or_false] at known
    rcases known with rfl | rfl | rfl
    · rw [errorCount_empty, errorCount_empty, reordered.countP_eq]
    · rw [errorCount_duplicate, errorCount_duplicate, sameNamed.length_eq, sameNames]
    · rw [errorCount_likeClass, errorCount_likeClass, sameNames, className]
  · rw [errorCount_other known, errorCount_other known]

/-- A duplicate is told together with the first member of its legal name, which stands before it. -/
theorem exists_first_of_duplicate {finding : Finding} (found : finding ∈ entity.memberFindings)
    (code : finding.code = "DUPLICATE_MEMBER_NAME") :
    ∃ front member back first, entity.memberNames = front ++ member :: back ∧
      isBlankText member = false ∧ first ∈ front ∧
      firstNamed? (safeName member) entity.memberNames = some first ∧
      finding = .duplicateMemberName entity.entityClass first member (safeName member) := by
  rw [memberFindings_eq] at found
  obtain ⟨front, member, back, shape, here⟩ := exists_of_mem_memberVerdicts found
  rw [List.nil_append] at here
  rcases mem_memberVerdict_iff.mp here with
    ⟨_, rfl⟩ | ⟨isNamed, ⟨first, before, rfl⟩ | ⟨_, _, rfl⟩⟩
  · simp [Finding.code] at code
  · have inFront := (mem_named_iff.mp (List.mem_of_find?_eq_some before)).1
    refine ⟨front, member, back, first, shape, isNamed, inFront, ?_, rfl⟩
    rw [shape, firstNamed?_append, before, Option.some_or]
  · simp [Finding.code] at code

end Errors

/-- Errors on member names are counted exactly: there is one for every blank member, one for every
other member but the first of each legal name, and one if some member is named like the class.  So
the order of properties and relationships does not change their number.  The message of every
duplicate names the first member of its legal name. -/
theorem errorCounts_of_memberFindings (entity : Entity) :
    let found := Diagnostics.ofFindings entity.memberFindings
    found.errorCount "EMPTY_MEMBER_NAME" = entity.memberNames.countP isBlankText ∧
    found.errorCount "DUPLICATE_MEMBER_NAME" =
      (named entity.memberNames).length -
        ((named entity.memberNames).map safeName).toFinset.card ∧
    found.errorCount "MEMBER_NAMED_LIKE_CLASS" =
      (if ∃ member ∈ named entity.memberNames, safeName member = safeName entity.entityClass then 1
      else 0) ∧
    (∀ properties relationships, properties.Perm entity.properties →
      relationships.Perm entity.relationships → ∀ code,
        (Diagnostics.ofFindings
          { entity with properties, relationships }.memberFindings).errorCount code =
            found.errorCount code) ∧
    ∀ item ∈ found.errors, item.code = "DUPLICATE_MEMBER_NAME" →
      ∃ front member back first, entity.memberNames = front ++ member :: back ∧
        member ∈ named entity.memberNames ∧ first ∈ front ∧
        firstNamed? (safeName member) entity.memberNames = some first ∧
        item.message = "Members '" ++ first ++ "' and '" ++ member ++ "' of entity '" ++
          entity.entityClass ++ "' both generate '" ++ safeName member ++ "'." := by
  refine ⟨entity.errorCount_empty, entity.errorCount_duplicate, ?_, ?_, ?_⟩
  · rw [errorCount_likeClass]
    exact if_congr mem_legalNames_iff rfl rfl
  · intro properties relationships sameProperties sameRelationships
    let other : Entity := { entity with properties, relationships }
    have sameMembers : other.memberNames.Perm entity.memberNames :=
      (sameProperties.map _).append (sameRelationships.map _)
    have sameClass : other.entityClass = entity.entityClass := rfl
    exact errorCount_perm sameClass sameMembers
  · intro item reported code
    obtain ⟨finding, found, rfl⟩ := List.mem_map.mp (List.mem_filter.mp reported).1
    obtain ⟨front, member, back, first, shape, isNamed, before, isFirst, rfl⟩ :=
      exists_first_of_duplicate found code
    have listed : member ∈ entity.memberNames := by
      rw [shape]
      exact List.mem_append_right _ List.mem_cons_self
    exact ⟨front, member, back, first, shape, mem_named_iff.mpr ⟨listed, isNamed⟩, before, isFirst,
      rfl⟩

/-- An order whose members clash with each other and with the class, among blank ones. -/
def tangledOrder : Entity where
  entityNamespace := "Shop"
  entityClass := "Order"
  properties :=
    [{ propertyName := " ", systemType := ⟨"int", none⟩ },
      { propertyName := "Total", systemType := ⟨"int", none⟩ },
      { propertyName := "@Order", systemType := ⟨"int", none⟩ },
      { propertyName := "@Total", systemType := ⟨"int", none⟩ }]
  relationships :=
    [{ propertyName := "Order", primaryEntity := ⟨"", "Order"⟩ },
      { propertyName := "", primaryEntity := ⟨"", "Item"⟩ },
      { propertyName := "Total", primaryEntity := ⟨"", "Item"⟩ }]

/-- The order has two blank members, and five others with two names. -/
theorem errorCounts_of_memberFindings_tangledOrder :
    let reversed : Entity :=
      { tangledOrder with
        properties := tangledOrder.properties.reverse
        relationships := tangledOrder.relationships.reverse }
    let found := Diagnostics.ofFindings reversed.memberFindings
    found.errorCount "EMPTY_MEMBER_NAME" = 2 ∧ found.errorCount "DUPLICATE_MEMBER_NAME" = 3 ∧
      found.errorCount "MEMBER_NAMED_LIKE_CLASS" = 1 := by
  obtain ⟨empty, duplicate, likeClass, reordered, _⟩ := errorCounts_of_memberFindings tangledOrder
  have same := reordered _ _ (List.reverse_perm _) (List.reverse_perm _)
  dsimp only at same ⊢
  rw [same, same, same, empty, duplicate, likeClass]
  decide

end Entity

end EntityForge
