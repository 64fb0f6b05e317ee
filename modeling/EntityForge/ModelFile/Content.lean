import EntityForge.Model.Override
import EntityForge.ModelFile.References

/-!
# Content of model files

A model file holds the entities under one of two keys and optionally the options under one of
three.
-/

namespace EntityForge.ModelFile

/-- Why the content of a file is no model. -/
inductive ContentFault where
  | noEntities
  | reference (fault : ReferenceFault)
  | model (issues : List Schema.Issue)
  | options (issues : List Schema.Issue)
  deriving Repr

/-- The wording of refused options. -/
def optionsMessage (issues : List Schema.Issue) : Text :=
  "Options validation failed: " ++ Schema.headline "GeneratorOptions" issues

/-- The wording of a fault. -/
def ContentFault.message : ContentFault → Text
  | .noEntities =>
      "Cannot find entity definitions in input. " ++
        "Expected top-level key: 'entities' or 'model'."
  | .reference fault => fault.message
  | .model issues =>
      "Entity model validation failed: " ++ Schema.headline "EntityModel" issues
  | .options issues => optionsMessage issues

/-- What is wrong with the values of the content. -/
def ContentFault.issues : ContentFault → List Schema.Issue
  | .model issues | .options issues => issues
  | .noEntities | .reference _ => []

/-- The list that a value under a model key holds, directly or as its entities. -/
def entityList? : Data → Option (List Data)
  | .list items => some items
  | .map entries =>
      match Data.lookup? "entities" entries with
      | some (.list items) => some items
      | _ => none
  | _ => none

/-- The entities of the content.  Of the two keys the first that is present counts. -/
def entities? (content : List (Data × Data)) : Option (List Data) :=
  (Data.lookup? "model" content <|> Data.lookup? "entities" content).bind entityList?

/-- The options of the content: the first of three keys that has a value. -/
def options? (content : List (Data × Data)) : Option Data :=
  (["options", "config", "generator_options"] : List Text).findSome? fun key =>
    match Data.lookup? key content with
    | some .null | none => none
    | some options => some options

/-- Reads the model and the options of the content. -/
def parse (content : List (Data × Data)) :
    Except ContentFault (EntityModel × GeneratorOptions) := do
  let some entities := entities? content | throw .noEntities
  let resolved ← (resolveReferences entities).mapError .reference
  match EntityModel.read (Data.object [("entities", .list resolved)]) with
  | .invalid issues => throw (.model issues)
  | .valid model =>
      match GeneratorOptions.read ((options? content).getD (.map [])) with
      | .invalid issues => throw (.options issues)
      | .valid options => return (model, options)

end EntityForge.ModelFile
