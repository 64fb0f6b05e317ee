import EntityForge.Text.IdentifierChars
import EntityForge.Text.Split

/-!
# Identifiers of generated code

Any text becomes a legal identifier: foreign characters turn into underscores, a first character
that may not open an identifier gets an underscore in front, and a reserved keyword is escaped
with the verbatim sign `@`.  Names that are legal already stay as they are.
-/

namespace EntityForge.Identifier

open EntityForge.Text

/-- The reserved keywords.  Contextual keywords are legal identifiers and are not listed. -/
def keywords : List Text :=
  List.map Text.ofString
    [ "abstract", "as", "base", "bool", "break", "byte", "case", "catch", "char", "checked",
      "class", "const", "continue", "decimal", "default", "delegate", "do", "double", "else",
      "enum", "event", "explicit", "extern", "false", "finally", "fixed", "float", "for",
      "foreach", "goto", "if", "implicit", "in", "int", "interface", "internal", "is", "lock",
      "long", "namespace", "new", "null", "object", "operator", "out", "override", "params",
      "private", "protected", "public", "readonly", "ref", "return", "sbyte", "sealed", "short",
      "sizeof", "stackalloc", "static", "string", "struct", "switch", "this", "throw", "true",
      "try", "typeof", "uint", "ulong", "unchecked", "unsafe", "ushort", "using", "virtual",
      "void", "volatile", "while" ]

/-- Whether a name is reserved. -/
def isKeyword (name : Text) : Bool :=
  keywords.contains name

/-- The sign that lets a keyword stand as an identifier. -/
def verbatimSign : Point := '@'

/-- The characters of a name without one leading verbatim sign. -/
def dropVerbatim : List Point → List Point
  | [] => []
  | character :: rest => if character = verbatimSign then rest else character :: rest

/-- The character itself where it may stand in an identifier, else an underscore. -/
def legalPart (character : Point) : Point :=
  if isIdentifierPart character then character else '_'

/-- Puts an underscore in front unless the first character may open an identifier. -/
def withLegalStart : List Point → List Point
  | [] => ['_']
  | character :: rest =>
      if isIdentifierStart character then character :: rest else '_' :: character :: rest

/-- Escapes a keyword with the verbatim sign. -/
def escapeKeyword (word : List Point) : List Point :=
  if isKeyword (Text.ofList word) then verbatimSign :: word else word

/-- The legal identifier made from any text.  A leading verbatim sign is derived anew. -/
def safeName (name : Text) : Text :=
  Text.ofList (escapeKeyword (withLegalStart ((dropVerbatim name.toList).map legalPart)))

/-- The legal dotted name made from any text, segment by segment. -/
def safeQualifiedName (name : Text) : Text :=
  Text.intercalate "." ((pieces '.' name).map safeName)

/-- A name without its verbatim sign, as file names use it. -/
def withoutVerbatim (name : Text) : Text :=
  Text.ofList (dropVerbatim name.toList)

end EntityForge.Identifier
