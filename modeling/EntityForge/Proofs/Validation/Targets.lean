import EntityForge.Proofs.Code.Indentation
import EntityForge.Proofs.Generation.Verdict
import EntityForge.Proofs.Identifier.Qualified
import EntityForge.Proofs.Validation.Entity

/-!
# Where navigations lead

A model is checked by dotted names: a relationship may only point at a name that one of its entities
has.  Files declare their classes under legal names instead, which are made from the pieces of the
namespace and from the class as a whole.  A navigation is printed with the declared name of its
target if its reference divides the dotted name where the entity does, and only then: a dot in the
name of a class is no dot any more once the name is legal.
-/

namespace EntityForge

open EntityForge.Identifier
open EntityForge.Layout
open EntityForge.Text

/-! ## Dots -/

namespace Identifier

/-- The number of dots in a name. -/
def dots (name : Text) : Nat :=
  name.toList.count (.scalar '.')

@[simp] theorem dots_append (left right : Text) :
    dots (left ++ right) = dots left + dots right := by
  rw [dots, Text.toList_append, List.count_append, dots, dots]

@[simp] theorem dots_dot : dots "." = 1 :=
  rfl

/-- A legal name has no dots. -/
@[simp] theorem dots_safeName (name : Text) : dots (safeName name) = 0 :=
  List.count_eq_zero.mpr (dot_notMem_safeName name)

/-- A legal dotted name has the dots of the name that it is made from. -/
@[simp] theorem dots_safeQualifiedName (name : Text) :
    dots (safeQualifiedName name) = dots name := by
  have length := congrArg List.length (pieces_safeQualifiedName name)
  rw [List.length_map, length_pieces, length_pieces] at length
  exact Nat.succ.inj length

/-- Dotted names that are divided at the same dot have the same parts. -/
theorem eq_of_append_dot {left right start rest : Text}
    (same : left ++ "." ++ right = start ++ "." ++ rest) (count : dots left = dots start) :
    left = start ∧ right = rest := by
  have characters : left.toList ++ .scalar '.' :: right.toList =
      start.toList ++ .scalar '.' :: rest.toList := by
    rw [← toList_append_dot, ← toList_append_dot, same]
  obtain ⟨front, back⟩ := append_separator_inj characters count
  exact ⟨Text.toList_inj.mp front, Text.toList_inj.mp back⟩

end Identifier

/-! ## References -/

/-- The name under which the file of an entity declares its class. -/
def Entity.declaredName (entity : Entity) : Text :=
  safeQualifiedName entity.entityNamespace ++ "." ++ entity.className

theorem Entity.dots_declaredName (entity : Entity) :
    dots entity.declaredName = dots entity.entityNamespace + 1 := by
  simp [declaredName, className]

theorem Entity.dots_dottedName (entity : Entity) :
    dots entity.dottedName = dots entity.entityNamespace + 1 + dots entity.entityClass := by
  simp [dottedName]

namespace EntityReference

variable {reference : EntityReference}

/-- Without a namespace only the legal class is printed, which no entity is declared as. -/
theorem qualifiedName_ne_declaredName (bare : reference.entityNamespace.isEmpty = true)
    (entity : Entity) : reference.qualifiedName ≠ entity.declaredName := by
  intro same
  have count := congrArg dots same
  rw [qualifiedName, if_pos bare, dots_safeName, entity.dots_declaredName] at count
  omega

/-- A reference is printed with the name that an entity is declared under exactly if it has a
namespace and both have the same legal namespace and class, whatever their dotted names are. -/
theorem qualifiedName_eq_iff {other : Entity} :
    reference.qualifiedName = other.declaredName ↔
      reference.entityNamespace ≠ "" ∧
        safeQualifiedName reference.entityNamespace = safeQualifiedName other.entityNamespace ∧
        safeName reference.entityClass = other.className := by
  cases bare : reference.entityNamespace.isEmpty with
  | true =>
      refine iff_of_false (qualifiedName_ne_declaredName bare other) fun named => ?_
      exact named.1 (Text.isEmpty_iff.mp bare)
  | false =>
      have named : reference.entityNamespace ≠ "" := by
        rintro isEmpty
        rw [isEmpty] at bare
        cases bare
      rw [qualifiedName, bare, if_neg Bool.false_ne_true, Entity.declaredName]
      constructor
      · intro same
        have count := congrArg dots same
        simp only [dots_append, dots_dot, dots_safeName, Entity.className] at count
        exact ⟨named, eq_of_append_dot same (by omega)⟩
      · rintro ⟨_, front, back⟩
        rw [front, back]

/-- A reference that has the dotted name of an entity has its namespace and class, too, exactly if
it finds as many dots in the class. -/
theorem eq_reference_iff {target : Entity} (known : reference.fullName = target.dottedName) :
    reference = target.reference ↔ dots reference.entityClass = dots target.entityClass := by
  constructor
  · intro same
    rw [same]
    rfl
  · intro count
    have total := congrArg dots known
    rw [target.dots_dottedName, fullName] at total
    rw [fullName] at known
    split at known
    next bare =>
      rw [if_pos bare] at total
      omega
    next qualified =>
      rw [if_neg qualified, dots_append, dots_append, dots_dot] at total
      obtain ⟨front, back⟩ := eq_of_append_dot known (by omega)
      cases reference
      cases front
      cases back
      rfl

/-- A reference that has the dotted name of an entity is printed with its declared name exactly if
it finds as many dots in the class. -/
theorem qualifiedName_eq_declaredName_iff {target : Entity}
    (known : reference.fullName = target.dottedName) :
    reference.qualifiedName = target.declaredName ↔
      dots reference.entityClass = dots target.entityClass := by
  have total := congrArg dots known
  rw [target.dots_dottedName, fullName] at total
  cases bare : reference.entityNamespace.isEmpty with
  | true =>
      rw [if_pos bare] at total
      exact iff_of_false (qualifiedName_ne_declaredName bare target) (by omega)
  | false =>
      have qualified : reference.qualifiedName =
          safeQualifiedName reference.entityNamespace ++ "." ++ safeName reference.entityClass := by
        rw [qualifiedName, bare, if_neg Bool.false_ne_true]
      constructor
      · intro same
        have count := congrArg dots same
        rw [qualified, target.dots_declaredName] at count
        simp only [bare, Bool.false_eq_true, if_false, dots_append, dots_dot, dots_safeName,
          dots_safeQualifiedName] at count total
        omega
      · intro count
        rw [qualified, (eq_reference_iff known).mpr count]
        rfl

end EntityReference

/-! ## Declarations -/

/-- Whether a text is one of the lines of code, however far that is indented. -/
def HasLine (code text : Text) : Prop :=
  ∃ line ∈ splitOn '\n' code.toList, line.dropWhile (· == .scalar ' ') = text.toList

/-- Whether code declares a class in a namespace: the namespace in the first line, the class in one
of the lines, however far that is indented. -/
structure Declares (code qualifier className : Text) : Prop where
  inNamespace : ∃ ending ∈ ["", ";"],
    (splitOn '\n' code.toList).head? = some ("namespace " ++ qualifier ++ ending).toList
  hasClass : ∃ line ∈ splitOn '\n' code.toList,
    line.dropWhile (· == .scalar ' ') = ("public partial class " ++ className).toList

namespace Layout

/-- A line as it stands in a file, without its indentation. -/
theorem Line.dropWhile_physical (unit : Nat) {line : Line} {first : Point}
    (begins : line.text.toList.head? = some first) (filled : first ≠ .scalar ' ') :
    (line.physical unit).dropWhile (· == .scalar ' ') = line.text.toList := by
  obtain ⟨rest, shape⟩ := List.head?_eq_some_iff.mp begins
  have given : ¬line.text.isEmpty = true := by
    rw [Text.isEmpty_iff, ← Text.toList_eq_nil_iff, shape]
    exact List.cons_ne_nil first rest
  have spaces : ∀ space ∈ List.replicate (unit * line.depth) (Point.scalar ' '),
      (space == .scalar ' ') = true := by
    intro space member
    rw [List.eq_of_mem_replicate member]
    rfl
  rw [physical, if_neg given, List.dropWhile_append_of_pos spaces, shape,
    List.dropWhile_cons_of_neg (by simpa using filled)]

/-- A line that is not nested stands in a file as it is. -/
theorem Line.physical_flat (unit : Nat) {text : Text} (filled : text.isEmpty = false) :
    (Line.flat text).physical unit = text.toList := by
  simp [physical, flat, filled]

end Layout

namespace Entity

variable {entity : Entity}

/-- Every layout keeps the lines of the class. -/
theorem exists_mem_fileLines (entity : Entity) (fileScoped : Bool) {lines : List Line}
    {line : Line} (member : line ∈ lines) :
    ∃ placed ∈ entity.fileLines fileScoped lines, placed.text = line.text := by
  cases fileScoped with
  | true => exact ⟨line, List.mem_cons_of_mem _ (List.mem_cons_of_mem _ member), rfl⟩
  | false =>
      have nested : line.nested ∈ nest lines := List.mem_map_of_mem member
      exact ⟨line.nested, List.mem_cons_of_mem _ (List.mem_append_left _
        (List.mem_cons_of_mem _ nested)), rfl⟩

/-- The lines of the class are lines of the code, in every layout. -/
theorem hasLine_of_mem_classLines {nullableMode : Bool} {plan : ClassPlan}
    (planned : entity.plan nullableMode = .ok plan) (unit : Nat) (fileScoped : Bool)
    {document : Bool} {line : Line} (member : line ∈ entity.classLines document plan)
    {first : Point} (begins : line.text.toList.head? = some first) (filled : first ≠ ' ') :
    HasLine (render unit (entity.fileLines fileScoped (entity.classLines document plan)))
      line.text := by
  obtain ⟨placed, inFile, same⟩ := entity.exists_mem_fileLines fileScoped member
  refine ⟨placed.physical unit, ?_, ?_⟩
  · rw [splitOn_render (isSingle_fileLines planned fileScoped document) unit]
    exact List.mem_append_left _ (List.mem_map_of_mem inFile)
  · rw [Line.dropWhile_physical unit (same ▸ begins) filled, same]

/-- The first line of a file opens its namespace. -/
theorem head?_fileLines (entity : Entity) (fileScoped : Bool) (lines : List Line) :
    ∃ ending ∈ ["", ";"], (entity.fileLines fileScoped lines).head? =
      some (.flat ("namespace " ++ safeQualifiedName entity.entityNamespace ++ ending)) := by
  cases fileScoped with
  | true => exact ⟨";", by simp, by simp [fileLines]⟩
  | false => exact ⟨"", by simp, by simp [fileLines, braced]⟩

/-- The file of an entity declares its class under the legal names of namespace and class. -/
theorem declares_of_synthesize {options : GeneratorOptions} {code : Text}
    (run : entity.synthesize options = .ok code) :
    Declares code (safeQualifiedName entity.entityNamespace) entity.className := by
  obtain ⟨_, plan, planned, rfl⟩ := synthesize_eq_ok_iff.mp run
  constructor
  · obtain ⟨ending, known, first⟩ := entity.head?_fileLines options.fileScopedNamespace
      (entity.classLines options.document plan)
    refine ⟨ending, known, ?_⟩
    rw [splitOn_render
        (isSingle_fileLines planned options.fileScopedNamespace options.document)
        options.indentSize,
      List.head?_append, List.head?_map, first, Option.map_some, Line.physical_flat _ (by simp),
      Option.some_or]
  · have heading : Line.flat ("public partial class " ++ entity.className) ∈
        entity.classLines options.document plan := by
      simp [classLines]
    have words : (Line.flat ("public partial class " ++ entity.className)).text =
        "public partial class " ++ entity.className := rfl
    have begins : (Line.flat ("public partial class " ++ entity.className)).text.toList.head? =
        some (.scalar 'p') := by
      simp [words]
    have placed := hasLine_of_mem_classLines planned options.indentSize
      options.fileScopedNamespace heading begins (by decide)
    rw [words] at placed
    exact placed

end Entity

/-! ## Models -/

namespace EntityModel

variable {model : EntityModel}

/-- A target is found to be unknown exactly if no entity has its dotted name. -/
theorem unknownPrimaryEntity_mem_findings_iff {className name target : Text} :
    Finding.unknownPrimaryEntity className name target ∈ model.findings ↔
      ∃ entity ∈ model.entities, ∃ relationship ∈ entity.relationships,
        entity.entityClass = className ∧ relationship.propertyName = name ∧
        relationship.primaryEntity.fullName = target ∧
        target ∉ model.entities.map Entity.dottedName := by
  rw [findings, List.mem_flatMap]
  constructor
  · rintro ⟨entity, inModel, found⟩
    cases List.mem_append.mp found with
    | inl own => exact absurd own (entity.unknownPrimaryEntity_notMem_findings _ _ _)
    | inr outside =>
        obtain ⟨relationship, selected, same⟩ := List.mem_map.mp outside
        obtain ⟨inEntity, unknown⟩ := List.mem_filter.mp selected
        cases same
        exact ⟨entity, inModel, relationship, inEntity, rfl, rfl, rfl, by simpa using unknown⟩
  · rintro ⟨entity, inModel, relationship, inEntity, rfl, rfl, rfl, unknown⟩
    have outside : relationship ∈ entity.relationships.filter fun relationship =>
        !(model.entities.map Entity.dottedName).contains relationship.primaryEntity.fullName :=
      List.mem_filter.mpr ⟨inEntity, by simpa using unknown⟩
    exact ⟨entity, inModel, List.mem_append_right _ (List.mem_map.mpr ⟨_, outside, rfl⟩)⟩

/-- Without a warning on it, the target of a relationship is known by its dotted name. -/
theorem exists_dottedName_eq
    (known : ∀ warning ∈ model.validate.warnings, warning.code ≠ "UNKNOWN_PRIMARY_ENTITY")
    {entity : Entity} (inModel : entity ∈ model.entities) {relationship : Relationship}
    (inEntity : relationship ∈ entity.relationships) :
    ∃ target ∈ model.entities, target.dottedName = relationship.primaryEntity.fullName := by
  by_contra unknown
  let finding : Finding := .unknownPrimaryEntity entity.entityClass relationship.propertyName
    relationship.primaryEntity.fullName
  have found : finding ∈ model.findings := by
    rw [unknownPrimaryEntity_mem_findings_iff]
    exact ⟨entity, inModel, relationship, inEntity, rfl, rfl, rfl,
      fun known => unknown (List.mem_map.mp known)⟩
  have absent : finding ∉ model.findings := Diagnostics.notMem_of_warnings known rfl
  exact absent found

/-- In a model with neither errors nor unknown targets, every relationship points at exactly one
entity by its dotted name, and that entity has a file if its types can be printed.  The navigation
is printed with the name that is declared there exactly if the reference finds as many dots in the
class as the entity has, and so whenever both are without dots; a reference without a namespace is
printed with a name that no file declares.  It is printed with the name that another entity declares
exactly if legal namespaces and classes coincide. -/
theorem target_of_validate (errors : model.validate.errors = [])
    (known : ∀ warning ∈ model.validate.warnings, warning.code ≠ "UNKNOWN_PRIMARY_ENTITY")
    {entity : Entity} (inModel : entity ∈ model.entities) {relationship : Relationship}
    (inEntity : relationship ∈ entity.relationships) :
    ∃ target ∈ model.entities,
      (∀ other ∈ model.entities,
        other.dottedName = relationship.primaryEntity.fullName ↔ other = target) ∧
      (relationship.primaryEntity.qualifiedName = target.declaredName ↔
        dots relationship.primaryEntity.entityClass = dots target.entityClass) ∧
      (relationship.primaryEntity.entityNamespace = "" →
        ∀ other ∈ model.entities,
          relationship.primaryEntity.qualifiedName ≠ other.declaredName) ∧
      (∀ other ∈ model.entities,
        relationship.primaryEntity.qualifiedName = other.declaredName ↔
          relationship.primaryEntity.entityNamespace ≠ "" ∧
            safeQualifiedName relationship.primaryEntity.entityNamespace =
              safeQualifiedName other.entityNamespace ∧
            safeName relationship.primaryEntity.entityClass = other.className) ∧
      ((∀ property ∈ target.properties, property.systemType.IsPrintable) →
        ∀ options, ∃ code, target.synthesize options = .ok code ∧
          Declares code (safeQualifiedName target.entityNamespace) target.className) := by
  obtain ⟨target, inTargets, same⟩ := exists_dottedName_eq known inModel inEntity
  refine ⟨target, inTargets, ?_, EntityReference.qualifiedName_eq_declaredName_iff same.symm,
    ?_, fun other _ => EntityReference.qualifiedName_eq_iff, ?_⟩
  · intro other inOthers
    rw [← same]
    constructor
    · exact List.inj_on_of_nodup_map model.distinct inOthers inTargets
    · exact congrArg Entity.dottedName
  · intro bare other _
    exact EntityReference.qualifiedName_ne_declaredName (Text.isEmpty_iff.mpr bare) other
  · intro printable options
    have valid := isValid_of_errors_eq_nil errors inTargets
    obtain ⟨code, run⟩ : ∃ code, target.synthesize options = .ok code :=
      Entity.exists_synthesize_iff.mpr ⟨valid, printable⟩
    exact ⟨code, run, Entity.declares_of_synthesize run⟩

/-- Orders with a parent, which is given by a class with a dot and without a namespace. -/
def nestedOrders : EntityModel where
  entities :=
    [ { entityNamespace := "Shop"
        entityClass := "Order"
        properties := [{ propertyName := "Id", systemType := ⟨"int", none⟩ }]
        relationships := [{ propertyName := "Parent", primaryEntity := ⟨"", "Shop.Order"⟩ }] } ]
  distinct := List.nodup_singleton _

/-- Orders point at themselves, and yet the navigation is printed with another name than the one
that their file declares. -/
theorem target_of_validate_nestedOrders :
    nestedOrders.validate.items = [] ∧
      ∃ order ∈ nestedOrders.entities, ∃ relationship ∈ order.relationships,
        order.dottedName = relationship.primaryEntity.fullName ∧
        relationship.primaryEntity.qualifiedName ≠ order.declaredName ∧
        ∃ code, order.synthesize {} = .ok code ∧
          Declares code (safeQualifiedName order.entityNamespace) order.className := by
  have none : nestedOrders.findings = [] := by decide
  have clean : nestedOrders.validate.items = [] := congrArg (List.map Finding.diagnostic) none
  have errors : nestedOrders.validate.errors = [] := congrArg (List.filter Diagnostic.isError) clean
  have warnings : nestedOrders.validate.warnings = [] :=
    congrArg (List.filter Diagnostic.isWarning) clean
  obtain ⟨order, inModel, alone, printed, _, _, file⟩ := target_of_validate errors
    (fun warning member => absurd (warnings ▸ member) List.not_mem_nil)
    List.mem_cons_self List.mem_cons_self
  refine ⟨clean, order, inModel, _, ?_, (alone order inModel).mpr rfl, ?_, ?_⟩
  · cases List.mem_singleton.mp inModel
    exact List.mem_cons_self
  · cases List.mem_singleton.mp inModel
    rw [Ne, printed]
    decide
  · apply file
    cases List.mem_singleton.mp inModel
    exact List.forall_mem_singleton.mpr (SystemType.isPrintable_of_isQualifiedName (by decide))

end EntityModel

end EntityForge
