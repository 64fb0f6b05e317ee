import EntityForge.Validation.Diagnostic

/-!
# Findings

Everything that the validation of entities can find, with the names that each finding is about.
Severity, code, wording and context are functions of the finding.
-/

namespace EntityForge

/-- A finding about an entity. -/
inductive Finding where
  | emptyClassName (table : Text)
  | emptyNamespace (entity : Text)
  | blankBaseClass (entity : Text)
  | emptyMemberName (entity member : Text)
  /-- Two members have one safe name; `first` is the earlier one. -/
  | duplicateMemberName (entity first member safeName : Text)
  | memberNamedLikeClass (entity member className : Text)
  | missingPrimaryEntity (entity relationship : Text)
  | unknownForeignKeyProperty (entity relationship property : Text)
  | keyNotExposedAsId (entity : Text) (keys : List Text)
  | missingIdProperty (entity : Text)
  | unknownPrimaryEntity (entity relationship target : Text)
  deriving BEq, DecidableEq, Repr

/-- The property that the identity members of a class read. -/
def identityPropertyName : Text := "Id"

namespace Finding

def severity : Finding → Severity
  | .emptyClassName .. | .emptyNamespace .. | .emptyMemberName .. | .duplicateMemberName ..
  | .memberNamedLikeClass .. | .missingPrimaryEntity .. => .error
  | .blankBaseClass .. | .unknownForeignKeyProperty .. | .keyNotExposedAsId ..
  | .missingIdProperty .. | .unknownPrimaryEntity .. => .warning

def code : Finding → Text
  | .emptyClassName .. => "EMPTY_CLASS_NAME"
  | .emptyNamespace .. => "EMPTY_NAMESPACE"
  | .blankBaseClass .. => "BLANK_BASE_CLASS"
  | .emptyMemberName .. => "EMPTY_MEMBER_NAME"
  | .duplicateMemberName .. => "DUPLICATE_MEMBER_NAME"
  | .memberNamedLikeClass .. => "MEMBER_NAMED_LIKE_CLASS"
  | .missingPrimaryEntity .. => "MISSING_PRIMARY_ENTITY"
  | .unknownForeignKeyProperty .. => "UNKNOWN_FOREIGN_KEY_PROPERTY"
  | .keyNotExposedAsId .. => "KEY_NOT_EXPOSED_AS_ID"
  | .missingIdProperty .. => "MISSING_ID_PROPERTY"
  | .unknownPrimaryEntity .. => "UNKNOWN_PRIMARY_ENTITY"

def message : Finding → Text
  | .emptyClassName _ => "Entity class name is empty."
  | .emptyNamespace entity => "Entity '" ++ entity ++ "' has no namespace."
  | .blankBaseClass entity =>
      "Entity '" ++ entity ++ "' has a blank base class; it is treated as having none."
  | .emptyMemberName entity _ => "Entity '" ++ entity ++ "' has a member with an empty name."
  | .duplicateMemberName entity first member safeName =>
      "Members '" ++ first ++ "' and '" ++ member ++ "' of entity '" ++ entity ++
        "' both generate '" ++ safeName ++ "'."
  | .memberNamedLikeClass _ member className =>
      "Member '" ++ member ++ "' has the same name as its enclosing class '" ++ className ++ "'."
  | .missingPrimaryEntity entity relationship =>
      "Relationship '" ++ relationship ++ "' of entity '" ++ entity ++ "' has no target entity."
  | .unknownForeignKeyProperty entity relationship property =>
      "Relationship '" ++ relationship ++ "' references property '" ++ property ++ "' " ++
        "which is not defined on '" ++ entity ++ "'."
  | .keyNotExposedAsId entity keys =>
      "Entity '" ++ entity ++ "' is keyed on " ++ Text.quotedList keys ++
        ", but the identity members expose '" ++ identityPropertyName ++ "'."
  | .missingIdProperty entity =>
      "Entity '" ++ entity ++ "' has no '" ++ identityPropertyName ++
        "' property and no base class; " ++
        "the identity members will not compile unless another partial declares it."
  | .unknownPrimaryEntity entity relationship target =>
      "Relationship '" ++ entity ++ "." ++ relationship ++ "' targets '" ++ target ++ "', " ++
        "which is not part of this model."

/-- The names of the model that a finding is about. -/
def context : Finding → List (Text × Data)
  | .emptyClassName table => [("table", .text table)]
  | .emptyNamespace entity | .blankBaseClass entity | .missingIdProperty entity =>
      [("entity", .text entity)]
  | .emptyMemberName entity member | .duplicateMemberName entity _ member _
  | .memberNamedLikeClass entity member _ =>
      [("entity", .text entity), ("member", .text member)]
  | .missingPrimaryEntity entity relationship | .unknownPrimaryEntity entity relationship _ =>
      [("entity", .text entity), ("relationship", .text relationship)]
  | .unknownForeignKeyProperty entity relationship property =>
      [ ("entity", .text entity), ("relationship", .text relationship),
        ("property", .text property) ]
  | .keyNotExposedAsId entity keys =>
      [("entity", .text entity), ("keys", .list (keys.map .text))]

def isError (finding : Finding) : Bool :=
  finding.severity == .error

/-- The finding in the form in which it is reported. -/
def diagnostic (finding : Finding) : Diagnostic where
  severity := finding.severity
  code := finding.code
  message := finding.message
  context := finding.context.map fun entry => (.text entry.1, entry.2)

end Finding

/-- The diagnostics of findings, in their order. -/
def Diagnostics.ofFindings (findings : List Finding) : Diagnostics :=
  ⟨findings.map Finding.diagnostic⟩

end EntityForge
