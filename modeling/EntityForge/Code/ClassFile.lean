import EntityForge.Code.Member
import EntityForge.Layout.Writer
import EntityForge.Validation.Entity

/-!
# Class files

The source file of one entity: a namespace that holds a partial class with a constructor and the
regions of its members.  Validation and planning come first, so that a file is written either
completely or not at all.
-/

namespace EntityForge

open EntityForge.Identifier
open EntityForge.Layout

/-- Why no class file is written for an entity. -/
inductive SynthesisError where
  /-- The metadata is malformed.  Only errors are kept, no warnings. -/
  | precondition (entityName : Text) (findings : List Finding)
  | unsupportedType (error : UnsupportedType)
  deriving BEq, DecidableEq, Repr

/-- The wording of a synthesis error. -/
def SynthesisError.message : SynthesisError → Text
  | .precondition entityName findings =>
      "Entity '" ++ entityName ++ "' is invalid: " ++
        Text.intercalate "; " (findings.map Finding.message)
  | .unsupportedType error => error.message

/-- The name under which an entity appears among failures. -/
def Entity.failureName (entity : Entity) : Text :=
  if entity.entityClass.isEmpty then "<unnamed>" else entity.entityClass

/-- The findings of an entity, which must not hold an error. -/
def Entity.ensureValid (entity : Entity) : Except SynthesisError (List Finding) :=
  if entity.findings.any Finding.isError then
    .error (.precondition entity.failureName (entity.findings.filter Finding.isError))
  else
    .ok entity.findings

/-! ## What is written -/

/-- Writes between braces of their own, one level deeper. -/
def writeBraced (body : List Command) : List Command :=
  [.appendLine "\x7b", .block body none, .appendLine "\x7d"]

/-- Writes in a named region. -/
def writeRegion (title : Text) (body : List Command) : List Command :=
  .appendLine ("#region " ++ title) :: body ++ [.appendLine "#endregion"]

/-- Writes a documentation comment.  Line feeds in the texts begin lines that are no comment
lines. -/
def writeDocumentation (summary value : Text) (seeAlso : List Text) : List Command :=
  [.appendLine "/// <summary>", .appendLine ("/// " ++ summary), .appendLine "/// </summary>"] ++
    (if value.isEmpty then []
    else [.appendLine "/// <value>", .appendLine ("/// " ++ value), .appendLine "/// </value>"]) ++
    seeAlso.map fun name => .appendLine ("/// <seealso cref=\"" ++ name ++ "\" />")

/-- The words of a declaration: attribute, modifiers, type, name and accessors. -/
def Member.words (member : Member) : List Text :=
  (member.attributeName.toList.map fun name => ("[" : Text) ++ name ++ "]") ++
    ((if member.isVirtual then ["public", "virtual"] else ["public"]) : List Text) ++
    [member.declaredType, member.name, "\x7b get; set; \x7d"]

/-- What stands behind the words of a declaration. -/
def Member.assignment (member : Member) : Text :=
  match member.initializer with
  | some expression => " = " ++ expression ++ ";"
  | none => ""

/-- Writes a property-like member. -/
def Member.write (document : Bool) (member : Member) : List Command :=
  (if document then writeDocumentation member.summary member.value member.seeAlso else []) ++
    [.appendLine (Text.intercalate " " member.words ++ member.assignment)]

/-- Writes an adapter: an explicit implementation whose setter does nothing. -/
def Member.writeAdapter (member : Member) : List Command :=
  .appendLine (member.declaredType ++ " " ++ member.interface ++ "." ++ member.name) ::
    writeBraced [.appendLine ("get => " ++ member.getter ++ ";"), .appendLine "set \x7b \x7d"]

/-! ## Plans -/

/-- The members of a class as they are planned. -/
structure ClassPlan where
  initializers : List (Text × Text)
  properties : List Member
  relationships : List Member
  identity : List Member

/-- Plans the members of the class of an entity. -/
def Entity.plan (entity : Entity) (nullableMode : Bool) : Except UnsupportedType ClassPlan :=
  (entity.scalarMembers nullableMode).map fun properties =>
    { initializers := entity.collectionInitializers
      properties
      relationships := entity.navigationMembers nullableMode
      identity := identityMembers nullableMode }

namespace Entity

/-- The table as the documentation names it. -/
def documentedTable (entity : Entity) : Text :=
  match entity.tableSchema with
  | some tableSchema =>
      if tableSchema.isEmpty then entity.tableName else tableSchema ++ "." ++ entity.tableName
  | none => entity.tableName

/-- Writes the constructor, which fills every collection. -/
def writeConstructor (entity : Entity) (document : Bool)
    (initializers : List (Text × Text)) : List Command :=
  let statements := initializers.map fun entry =>
    Command.appendLine (entry.1 ++ " = new " ++ hashSet ++ "<" ++ entry.2 ++ ">();")
  (if document then
    writeDocumentation
      ("Initializes a new instance of the <see cref=\"" ++ entity.className ++ "\"/> class.") "" []
  else []) ++
    .appendLine ("public " ++ entity.className ++ "()") ::
    writeBraced (writeRegion "Generated Constructor" statements)

/-- Writes the bases of the class: the identity contract is added to a base class. -/
def writeBase (entity : Entity) : List Command :=
  match entity.baseClass? with
  | some base =>
      let name := safeQualifiedName (Text.ofList (Text.trim base.toList))
      [.block [.appendLine (": " ++ name ++ ", " ++ identifiableOfInt)] none]
  | none => []

/-- Writes the class. -/
def writeClass (entity : Entity) (document : Bool) (plan : ClassPlan) : List Command :=
  (if document then
    writeDocumentation
      ("Entity class representing data for table '" ++ entity.documentedTable ++ "'.") "" []
  else []) ++
    .appendLine ("public partial class " ++ entity.className) :: entity.writeBase ++
    writeBraced
      (entity.writeConstructor document plan.initializers ++ .appendLine "" ::
        writeRegion "Generated Properties" (plan.properties.flatMap (Member.write document)) ++
        .appendLine "" ::
        writeRegion "Generated Relationships"
          (plan.relationships.flatMap (Member.write document)) ++
        .appendLine "" ::
        writeRegion "Generated IIdentifiable Properties"
          (plan.identity.flatMap Member.writeAdapter))

/-- Writes the file: the class under a namespace declaration, or inside a namespace. -/
def writeFile (entity : Entity) (fileScoped : Bool) (body : List Command) : List Command :=
  let name := safeQualifiedName entity.entityNamespace
  if fileScoped then
    .appendLine ("namespace " ++ name ++ ";") :: .appendLine "" :: body
  else
    .appendLine ("namespace " ++ name) :: writeBraced body

/-- The name of the file for an entity. -/
def fileName (entity : Entity) (options : GeneratorOptions) : Text :=
  withoutVerbatim entity.className ++ options.fileExtension

/-- The source of the class for an entity. -/
def synthesize (entity : Entity) (options : GeneratorOptions) :
    Except SynthesisError Text := do
  let _ ← entity.ensureValid
  let plan ← (entity.plan options.nullable).mapError .unsupportedType
  let body := entity.writeClass options.document plan
  let writer : Writer := { unit := options.indentSize }
  return (Command.runAll writer (entity.writeFile options.fileScopedNamespace body)).1.text

end Entity

end EntityForge
