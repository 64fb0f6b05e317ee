import EntityForge.Data.Basic

/-!
# References by class name

A relationship may name its target by the bare class name of an entity in the same file.  Such a
name is replaced by a full reference before the file is read as a model, so the data may still have
any shape here.
-/

namespace EntityForge.ModelFile

/-- Data in which references cannot even be looked for. -/
inductive ReferenceFault where
  /-- A class name that is a list, a set or a mapping, or a tuple that holds one. -/
  | notAName (kind : Text)
  /-- Relationships that are no collection. -/
  | notACollection (kind : Text)
  deriving BEq, DecidableEq, Repr

/-- The wording of a fault. -/
def ReferenceFault.message : ReferenceFault → Text
  | .notAName kind => "unhashable type: '" ++ kind ++ "'"
  | .notACollection kind => "'" ++ kind ++ "' object is not iterable"

/-- The full name of a value's kind. -/
def fullKindName : Data → Text
  | .date _ => "datetime.date"
  | .moment _ => "datetime.datetime"
  | data => data.kindName

/-- The value under a key of a mapping, null where there is none. -/
def entry (name : Text) : Data → Data
  | .map entries => (Data.lookup? name entries).getD .null
  | _ => .null

/-- The class name that an entity declares, with its namespace.  An entity without a namespace
counts with an empty one.  Only texts are names, but any other value must at least be one that could
be looked up. -/
def declaredClass : Data → Except ReferenceFault (Option (Text × Data))
  | .map entries =>
      let declared := (Data.lookup? "entity_class" entries).getD .null
      if !declared.isTruthy then .ok none
      else
        match declared.changeable?, declared with
        | some collection, _ => .error (.notAName collection.kindName)
        | none, .text name =>
            .ok (some (name, (Data.lookup? "entity_namespace" entries).getD (.text "")))
        | none, _ => .ok none
  | _ => .ok none

/-- The known class names with their namespaces, in the order of their entities. -/
def classNamespaces (entities : List Data) : Except ReferenceFault (List (Text × Data)) :=
  (entities.mapM declaredClass).map (·.filterMap id)

/-- A relationship with its target in full, if it names a known class. -/
def resolveRelationship (known : List (Text × Data)) (relationship : Data) : Data :=
  match relationship, entry "primary_entity" relationship with
  | .map entries, .text target =>
      match known.lookup target with
      | some declared =>
          let reference := Data.object
            [("entity_namespace", declared), ("entity_class", .text target)]
          .map (Data.assign "primary_entity" reference entries)
      | none => relationship
  | _, _ => relationship

/-- The members of a value that is read as a collection.  Anything absent or empty has none. -/
def members (data : Data) : Except ReferenceFault (List Data) :=
  if !data.isTruthy then .ok []
  else
    match data with
    | .list items | .tuple items | .set items => .ok items
    | .map entries => .ok (entries.map (·.1))
    | .text text => .ok (text.toList.map fun character => .text (Text.ofList [character]))
    | .bytes bytes => .ok (bytes.map fun byte => .int byte.toNat)
    | data => .error (.notACollection (fullKindName data))

/-- An entity with the targets of its relationships in full. -/
def resolveEntity (known : List (Text × Data)) : Data → Except ReferenceFault Data
  | .map entries => do
      let relationships ← members ((Data.lookup? "relationships" entries).getD .null)
      let resolved := Data.list (relationships.map (resolveRelationship known))
      .ok (.map (Data.assign "relationships" resolved entries))
  | data => .ok data

/-- Entities with the targets of their relationships in full. -/
def resolveReferences (entities : List Data) : Except ReferenceFault (List Data) := do
  let known ← classNamespaces entities
  entities.mapM (resolveEntity known)

end EntityForge.ModelFile
