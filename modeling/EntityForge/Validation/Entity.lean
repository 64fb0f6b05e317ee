import EntityForge.Identifier
import EntityForge.Model.Basic
import EntityForge.Validation.Finding

/-!
# Validating entities

The preconditions under which a class can be generated: names are there, member names stay unique
once they are legal identifiers, and targets are named.  Cross-links and the identity property are
checked too, but only with warnings.
-/

namespace EntityForge.Entity

open EntityForge.Identifier
open EntityForge.Text (isBlankText)

/-- Class and namespace must be there. -/
def nameFindings (entity : Entity) : List Finding :=
  (if isBlankText entity.entityClass then [.emptyClassName entity.tableName] else []) ++
  (if isBlankText entity.entityNamespace then [.emptyNamespace entity.entityClass] else []) ++
  (if entity.entityBaseClass.any isBlankText then [.blankBaseClass entity.entityClass] else [])

/-- Findings on member names, where `seen` holds the earlier members under their safe names.  Only
the first member of a safe name is compared with the class. -/
def memberFindingsFrom (entity : Entity) (seen : List (Text × Text)) :
    List Text → List Finding
  | [] => []
  | member :: rest =>
      if isBlankText member then
        .emptyMemberName entity.entityClass member :: memberFindingsFrom entity seen rest
      else
        match seen.lookup (safeName member) with
        | some first =>
            .duplicateMemberName entity.entityClass first member (safeName member) ::
              memberFindingsFrom entity seen rest
        | none =>
            (if safeName member == safeName entity.entityClass then
              [.memberNamedLikeClass entity.entityClass member (safeName entity.entityClass)]
            else []) ++
              memberFindingsFrom entity ((safeName member, member) :: seen) rest

/-- Member names must be there, unique as identifiers, and different from the class. -/
def memberFindings (entity : Entity) : List Finding :=
  memberFindingsFrom entity [] entity.memberNames

/-- Findings on one relationship: the target must be named, and a single target's foreign keys
should be properties of the entity. -/
def relationshipFindingsOf (entity : Entity) (relationship : Relationship) : List Finding :=
  (if isBlankText relationship.primaryEntity.entityClass then
    [.missingPrimaryEntity entity.entityClass relationship.propertyName]
  else []) ++
  (if relationship.cardinality == .many then []
  else
    (relationship.properties.filter fun name =>
      !(entity.properties.map (·.propertyName)).contains name).map fun name =>
        .unknownForeignKeyProperty entity.entityClass relationship.propertyName name)

/-- Findings on all relationships, in their order. -/
def relationshipFindings (entity : Entity) : List Finding :=
  entity.relationships.flatMap entity.relationshipFindingsOf

/-- The names of the key properties. -/
def keyNames (entity : Entity) : List Text :=
  (entity.properties.filter (·.isPrimaryKey)).map (·.propertyName)

/-- The identity members read one property, which should be the key and should be declared, be it
by a base class. -/
def identityFindings (entity : Entity) : List Finding :=
  (if !entity.keyNames.isEmpty && !entity.keyNames.contains identityPropertyName then
    [.keyNotExposedAsId entity.entityClass entity.keyNames]
  else []) ++
  (if entity.baseClass?.isSome || (entity.property? identityPropertyName).isSome then []
  else [.missingIdProperty entity.entityClass])

/-- All findings on an entity. -/
def findings (entity : Entity) : List Finding :=
  entity.nameFindings ++ entity.memberFindings ++ entity.relationshipFindings ++
    entity.identityFindings

/-- All diagnostics of an entity. -/
def validate (entity : Entity) : Diagnostics :=
  .ofFindings entity.findings

end EntityForge.Entity
