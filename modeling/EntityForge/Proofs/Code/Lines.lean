import EntityForge.Code.ClassFile
import EntityForge.Proofs.Layout.Line

/-!
# The lines of class files

The lines that a class file is meant to have, each with its depth.
-/

namespace EntityForge

open EntityForge.Identifier
open EntityForge.Layout

/-- A documentation comment.  Line feeds in the texts begin lines that are no comment lines. -/
def documentation (summary value : Text) (seeAlso : List Text) : List Line :=
  Line.ofText "/// <summary>" ++ Line.ofText ("/// " ++ summary) ++
    Line.ofText "/// </summary>" ++
    (if value.isEmpty then []
    else Line.ofText "/// <value>" ++ Line.ofText ("/// " ++ value) ++
      Line.ofText "/// </value>") ++
    seeAlso.flatMap fun name => Line.ofText ("/// <seealso cref=\"" ++ name ++ "\" />")

/-- The declaration of a property-like member. -/
def Member.declaration (member : Member) : Line :=
  .flat (Text.intercalate " " member.words ++ member.assignment)

/-- The lines of a property-like member. -/
def Member.lines (document : Bool) (member : Member) : List Line :=
  (if document then documentation member.summary member.value member.seeAlso else []) ++
    [member.declaration]

/-- The lines of an adapter: an explicit implementation whose setter does nothing. -/
def Member.adapterLines (member : Member) : List Line :=
  .flat (member.declaredType ++ " " ++ member.interface ++ "." ++ member.name) ::
    braced [.flat ("get => " ++ member.getter ++ ";"), .flat "set \x7b \x7d"]

/-- Lines in a named region. -/
def region (title : Text) (lines : List Line) : List Line :=
  .flat ("#region " ++ title) :: lines ++ [.flat "#endregion"]

namespace Entity

/-- The statement that fills a collection. -/
def initializerLine (entry : Text × Text) : Line :=
  .flat (entry.1 ++ " = new " ++ hashSet ++ "<" ++ entry.2 ++ ">();")

/-- The constructor, which fills every collection. -/
def constructorLines (entity : Entity) (document : Bool)
    (initializers : List (Text × Text)) : List Line :=
  (if document then
    documentation
      ("Initializes a new instance of the <see cref=\"" ++ entity.className ++ "\"/> class.") "" []
  else []) ++
    .flat ("public " ++ entity.className ++ "()") ::
    braced (region "Generated Constructor" (initializers.map initializerLine))

/-- The bases of the class: the identity contract is added to a base class. -/
def baseLines (entity : Entity) : List Line :=
  match entity.baseClass? with
  | some base =>
      let name := safeQualifiedName (Text.ofList (Text.trim base.toList))
      nest [.flat (": " ++ name ++ ", " ++ identifiableOfInt)]
  | none => []

/-- The lines of the class. -/
def classLines (entity : Entity) (document : Bool) (plan : ClassPlan) : List Line :=
  (if document then
    documentation ("Entity class representing data for table '" ++ entity.documentedTable ++ "'.")
      "" []
  else []) ++
    .flat ("public partial class " ++ entity.className) :: entity.baseLines ++
    braced
      (entity.constructorLines document plan.initializers ++ .blank ::
        region "Generated Properties" (plan.properties.flatMap (Member.lines document)) ++
        .blank ::
        region "Generated Relationships" (plan.relationships.flatMap (Member.lines document)) ++
        .blank ::
        region "Generated IIdentifiable Properties"
          (plan.identity.flatMap Member.adapterLines))

/-- The lines of the file: the class under a namespace declaration, or inside a namespace. -/
def fileLines (entity : Entity) (fileScoped : Bool) (classLines : List Line) : List Line :=
  let name := safeQualifiedName entity.entityNamespace
  if fileScoped then
    .flat ("namespace " ++ name ++ ";") :: .blank :: classLines
  else
    .flat ("namespace " ++ name) :: braced classLines

end Entity

end EntityForge
