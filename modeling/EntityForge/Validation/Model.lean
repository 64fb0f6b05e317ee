import EntityForge.Validation.Entity

/-!
# Validating models

A model is validated entity by entity, and every relationship should point at an entity of the
model.  Targets outside it are only a warning, since they may be written by hand elsewhere.
-/

namespace EntityForge

/-- Warnings on the relationships of an entity that point outside the known entities. -/
def Entity.outsideTargets (entity : Entity) (known : List Text) : List Finding :=
  (entity.relationships.filter fun relationship =>
    !known.contains relationship.primaryEntity.fullName).map fun relationship =>
      .unknownPrimaryEntity entity.entityClass relationship.propertyName
        relationship.primaryEntity.fullName

namespace EntityModel

/-- All findings on a model. -/
def findings (model : EntityModel) : List Finding :=
  let known := model.entities.map Entity.dottedName
  model.entities.flatMap fun entity => entity.findings ++ entity.outsideTargets known

/-- All diagnostics of a model. -/
def validate (model : EntityModel) : Diagnostics :=
  .ofFindings model.findings

end EntityModel

end EntityForge
