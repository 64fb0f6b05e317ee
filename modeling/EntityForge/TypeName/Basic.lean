import EntityForge.Text.Blank

/-!
# Type names

The type expressions that a generated member may have: dotted names, arrays and generic
applications.  Built-in types have a short alias, which replaces their full name wherever the name
stands alone; the head of a generic application is kept as written.
-/

namespace EntityForge

/-- A type expression. -/
inductive TypeTree where
  | named (name : Text)
  | array (element : TypeTree)
  | generic (head : Text) (arguments : List TypeTree)
  deriving BEq, Repr

namespace TypeName

/-- The built-in types by their name in the `System` namespace, with their aliases. -/
def builtIns : List (Text × Text) :=
  [ ("Boolean", "bool"), ("Byte", "byte"), ("SByte", "sbyte"), ("Char", "char"),
    ("Decimal", "decimal"), ("Double", "double"), ("Single", "float"), ("Int16", "short"),
    ("Int32", "int"), ("Int64", "long"), ("UInt16", "ushort"), ("UInt32", "uint"),
    ("UInt64", "ulong"), ("IntPtr", "nint"), ("UIntPtr", "nuint"), ("Object", "object"),
    ("String", "string"), ("Void", "void") ]

/-- Every spelling of a built-in type that has an alias: qualified and unqualified. -/
def aliases : List (Text × Text) :=
  builtIns.map (fun entry => (("System." : Text) ++ entry.1, entry.2)) ++ builtIns

/-- The alias of a name, or the name itself where it has none.  Aliases stand for themselves. -/
def aliasOf (name : Text) : Text :=
  (aliases.lookup name).getD name

/-- The structs of the `System` namespace that have no alias. -/
def systemStructs : List Text :=
  ["DateTime", "DateTimeOffset", "DateOnly", "TimeOnly", "TimeSpan", "Guid"]

/-- The printed names that are known to be value types. -/
def valueTypes : List Text :=
  ([ "bool", "byte", "sbyte", "char", "decimal", "double", "float", "short", "int", "long",
    "ushort", "uint", "ulong", "nint", "nuint" ] : List Text) ++
  systemStructs ++ systemStructs.map (("System." : Text) ++ ·)

end TypeName

/-- The canonical text of a type expression: aliases for built-in names, arguments separated by a
comma and one space, no other white space. -/
def TypeTree.print : TypeTree → Text
  | .named name => TypeName.aliasOf name
  | .array element => element.print ++ "[]"
  | .generic head arguments =>
      head ++ "<" ++ Text.intercalate ", " (arguments.map TypeTree.print) ++ ">"

/-- Why a text is no type expression. -/
inductive TypeFault.Reason where
  | emptyName
  | nullableApplication
  | malformedGeneric
  | unbalancedClose
  | unbalancedOpen
  | notAName
  /-- A reason in the words of a caller. -/
  | stated (text : Text)
  deriving BEq, DecidableEq, Repr

/-- The wording of a reason. -/
def TypeFault.Reason.text : TypeFault.Reason → Text
  | .emptyName => "empty type name"
  | .nullableApplication => "use the base type with is_nullable=True"
  | .malformedGeneric => "malformed generic type"
  | .unbalancedClose => "unbalanced '>'"
  | .unbalancedOpen => "unbalanced '<'"
  | .notAName => "not a valid type name"
  | .stated text => text

/-- A text that was refused as a type expression.  The text is the innermost part at fault. -/
structure TypeFault where
  typeName : Text
  reason : TypeFault.Reason
  deriving BEq, DecidableEq, Repr

end EntityForge
