import EntityForge.Files.Tree
import EntityForge.Json.Reader
import EntityForge.Text.LowerCase
import EntityForge.Text.Newlines
import EntityForge.Yaml.Reader

/-!
# Loading model files

A model file is JSON or YAML, as its suffix says.  A file with another suffix is tried as both.
-/

namespace EntityForge.ModelFile

/-- Why a file holds no mapping. -/
inductive LoadFault where
  | notFound (path : Files.Path)
  | notAFile (path : Files.Path)
  | notText (fault : Text.Utf8.Fault)
  | json (path : Files.Path) (document : List Char) (fault : Json.Fault)
  | yaml (path : Files.Path) (fault : Yaml.Fault)
  | notAnObject (kind : Text)
  | notAMapping (kind : Text)
  /-- The file system refused to look at the path. -/
  | inaccessible (failure : Files.Failure)

/-- The wording of a fault.  A scalar that denotes no value speaks for itself. -/
def LoadFault.message : LoadFault → Text
  | .notFound path => "Model file not found: " ++ path.text
  | .notAFile path => "Model path is not a file: " ++ path.text
  | .notText fault => fault.message
  | .json path document (.malformed problem position) =>
      "Invalid JSON in " ++ path.text ++ ": " ++
        (Json.Fault.malformed problem position).message document
  | .json _ document fault => fault.message document
  | .yaml path .malformed => "Invalid YAML in " ++ path.text
  | .yaml _ fault => fault.message
  | .notAnObject kind => "Expected a JSON object at top level, got " ++ kind ++ "."
  | .notAMapping kind => "Expected a YAML mapping at top level, got " ++ kind ++ "."
  | .inaccessible failure => failure.message

/-- Whether a fault is one of the file's content or of its absence.  Other faults end the run. -/
def LoadFault.isReported : LoadFault → Bool
  | .yaml _ .malformed | .yaml _ (.numeral _) | .yaml _ .codePointOutOfRange => true
  | .yaml _ (.timestamp .notATimestamp) | .yaml _ (.timestamp .notAText) => false
  | .yaml _ (.timestamp _) => true
  | .yaml .. => false
  | .inaccessible _ => false
  | _ => true

/-- The text of a file, with line feeds only. -/
def textOf (bytes : List UInt8) : Except LoadFault (List Char) :=
  match Text.Utf8.decode bytes with
  | .ok text => .ok (Text.unifyNewlines text.toList)
  | .error fault => .error (.notText fault)

/-- Reads a file as JSON. -/
def readJson (path : Files.Path) (bytes : List UInt8) : Except LoadFault (List (Data × Data)) := do
  let text ← textOf bytes
  match ← (Json.read (String.ofList text)).mapError (.json path text) with
  | .map entries => return entries
  | data => throw (.notAnObject data.kindName)

/-- Reads a file as YAML. -/
def readYaml (path : Files.Path) (bytes : List UInt8) : Except LoadFault (List (Data × Data)) := do
  let text ← textOf bytes
  match ← (Yaml.read (String.ofList text)).mapError (.yaml path) with
  | .map entries => return entries
  | data => throw (.notAMapping data.kindName)

/-- The format of a model file. -/
inductive Format where
  | json
  | yaml
  /-- JSON if it can be read as such, else YAML. -/
  | either
  deriving BEq, DecidableEq, Repr

/-- The suffix of a path in lower case. -/
def lowerSuffix (path : Files.Path) : Text :=
  Text.lowerCase path.suffix

/-- The format that a suffix announces. -/
def Format.ofSuffix (suffix : Text) : Format :=
  if suffix = ".yaml" ∨ suffix = ".yml" then .yaml
  else if suffix = ".json" then .json
  else .either

/-- The format of a file by its path. -/
def Format.ofPath (path : Files.Path) : Format :=
  .ofSuffix (lowerSuffix path)

/-- The bytes of the file at a path. -/
def fileBytes (tree : Files.Tree) (path : Files.Path) : Except LoadFault (List UInt8) :=
  match tree.find path with
  | .error failure => .error (.inaccessible failure)
  | .ok none => .error (.notFound path)
  | .ok (some .directory) => .error (.notAFile path)
  | .ok (some (.file bytes)) => .ok bytes

/-- Loads the mapping that a model file holds. -/
def load (tree : Files.Tree) (path : Files.Path) : Except LoadFault (List (Data × Data)) := do
  let bytes ← fileBytes tree path
  match Format.ofPath path with
  | .json => readJson path bytes
  | .yaml => readYaml path bytes
  | .either =>
      match readJson path bytes with
      | .ok entries => return entries
      | .error _ => readYaml path bytes

end EntityForge.ModelFile
