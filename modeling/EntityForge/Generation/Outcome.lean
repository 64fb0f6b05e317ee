import EntityForge.Code.ClassFile
import EntityForge.Text.Utf8

/-!
# Outcomes of entities

What becomes of each entity of a model: a file of its own, a failure, or nothing because an earlier
entity has the file.  No outcome depends on an entity that failed.
-/

namespace EntityForge

/-- What becomes of an entity. -/
inductive EntityOutcome where
  | generated (fileName code : Text)
  | failed (error : SynthesisError)
  /-- An earlier entity has the file of that name. -/
  | nameTaken (fileName : Text)
  deriving BEq, DecidableEq, Repr

/-- An entity with what becomes of it. -/
structure EntityResult where
  entity : Entity
  outcome : EntityOutcome
  deriving BEq, DecidableEq, Repr

namespace EntityResult

/-- The file of a generated entity. -/
def file? (result : EntityResult) : Option (Text × Text) :=
  match result.outcome with
  | .generated fileName code => some (fileName, code)
  | _ => none

/-- The error of an entity without a file. -/
def error? (result : EntityResult) : Option Text :=
  match result.outcome with
  | .generated .. => none
  | .failed error => some error.message
  | .nameTaken fileName =>
      some ("Entities generate the same file '" ++ fileName ++ "'; " ++
        "'" ++ result.entity.dottedName ++ "' skipped.")

/-- The name of an entity without a file. -/
def failedName? (result : EntityResult) : Option Text :=
  match result.outcome with
  | .generated .. => none
  | .failed _ => some result.entity.failureName
  | .nameTaken _ => some result.entity.entityClass

end EntityResult

/-- What becomes of an entity when some file names are taken. -/
def Entity.outcome (entity : Entity) (options : GeneratorOptions) (taken : List Text) :
    EntityOutcome :=
  match entity.synthesize options with
  | .error error => .failed error
  | .ok code =>
      if taken.contains (entity.fileName options) then .nameTaken (entity.fileName options)
      else .generated (entity.fileName options) code

/-- The results of entities in their order, when some file names are taken. -/
def entityResults (options : GeneratorOptions) (taken : List Text) :
    List Entity → List EntityResult
  | [] => []
  | entity :: rest =>
      let result : EntityResult := ⟨entity, entity.outcome options taken⟩
      result :: entityResults options (taken ++ (result.file?.map (·.1)).toList) rest

/-- The results of all entities of a model. -/
def EntityModel.results (model : EntityModel) (options : GeneratorOptions) : List EntityResult :=
  entityResults options [] model.entities

/-- The generated files. -/
def generatedFiles (results : List EntityResult) : List (Text × Text) :=
  results.filterMap EntityResult.file?

/-- What keeps files from being encoded, if anything: the fault of the first file that has one. -/
def encodingFault? (files : List (Text × Text)) : Option Text.Utf8.EncodingFault :=
  files.findSome? fun file => Text.Utf8.encodingFault? file.2

/-- The number of lines of generated files. -/
def totalLines (files : List (Text × Text)) : Nat :=
  (files.map fun file => Text.lineCount file.2).foldr (· + ·) 0

/-- The number of bytes of generated files. -/
def totalBytes (files : List (Text × Text)) : Nat :=
  (files.map fun file => (Text.Utf8.encode file.2).length).foldr (· + ·) 0

end EntityForge
