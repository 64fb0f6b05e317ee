import EntityForge.Model.Dump
import EntityForge.Schema.Record
import EntityForge.Schema.Scalar
import EntityForge.Text.Split

/-!
# Reading models

Entities and options are read from untyped data.  A few shorthands are expanded on the way: a type
may be given by its name, a target by its dotted name, and a column is named like its property
unless it has a name of its own.
-/

namespace EntityForge

open EntityForge.Schema

/-- The names of the fields of a record that have one name each. -/
def fieldNames (names : List Text) : List (List Text) :=
  names.map ([·])

namespace SystemType

/-- Reads a type descriptor. -/
def read (data : Data) : Checked SystemType :=
  (readEntries "SystemType" data).andThen fun entries =>
    withNothingElse
      (SystemType.mk
        <$> required "name" readText entries
        <*> defaulted "is_value_type" none (readOptional readBool) entries)
      (fieldNames ["name", "is_value_type"]) entries

/-- Expands a type that is given by its name. -/
def expand : Data → Data
  | .text name => .object [("name", .text name)]
  | data => data

end SystemType

namespace Property

/-- Fills a column name that is absent or empty from the property name, if there is one. -/
def withDefaultColumn (entries : List (Data × Data)) : List (Data × Data) :=
  let hasColumn := (Data.lookup? "column_name" entries).any Data.isTruthy
  match Data.lookup? "property_name" entries with
  | some name =>
      if !hasColumn && name.isTruthy then Data.assign "column_name" name entries else entries
  | none => entries

/-- Reads a property. -/
def read (data : Data) : Checked Property :=
  (readEntries "Property" data).andThen fun given =>
    let entries := withDefaultColumn given
    withNothingElse
      (Property.mk
        <$> required "property_name" readText entries
        <*> defaulted "column_name" "" readText entries
        <*> required "system_type" (fun type => SystemType.read (SystemType.expand type)) entries
        <*> defaulted "is_nullable" none (readOptional readBool) entries
        <*> defaulted "is_primary_key" false readBool entries)
      (fieldNames
        ["property_name", "column_name", "system_type", "is_nullable", "is_primary_key"])
      entries

end Property

namespace EntityReference

/-- Reads a reference. -/
def read (data : Data) : Checked EntityReference :=
  (readEntries "EntityReference" data).andThen fun entries =>
    withNothingElse
      (EntityReference.mk
        <$> defaulted "entity_namespace" "" readText entries
        <*> required "entity_class" readText entries)
      (fieldNames ["entity_namespace", "entity_class"]) entries

/-- The reference that a dotted name denotes: the class is what follows the last dot. -/
def ofDottedName (name : Text) : EntityReference :=
  let (before, after) := Text.splitLast '.' name.toList
  ⟨Text.ofList before, Text.ofList after⟩

/-- Expands a target that is given by its dotted name. -/
def expand : Data → Data
  | .text name => .object (ofDottedName name).fields
  | data => data

end EntityReference

/-- Reads a cardinality. -/
def Cardinality.read (data : Data) : Checked Cardinality :=
  ((textual? .notCardinality data).getD (.issue .notCardinality)).andThen fun word =>
    match [.zeroOrOne, .one, .many].find? fun cardinality : Cardinality =>
        cardinality.spelling == word with
    | some cardinality => .valid cardinality
    | none => .issue .notCardinality

/-- Reads a relationship. -/
def Relationship.read (data : Data) : Checked Relationship :=
  (readEntries "Relationship" data).andThen fun entries =>
    withNothingElse
      (Relationship.mk
        <$> required "property_name" readText entries
        <*> defaulted "cardinality" .one Cardinality.read entries
        <*> required "primary_entity"
          (fun target => EntityReference.read (EntityReference.expand target)) entries
        <*> defaulted "properties" [] (readList readText) entries)
      (fieldNames ["property_name", "cardinality", "primary_entity", "properties"]) entries

/-- Reads an entity. -/
def Entity.read (data : Data) : Checked Entity :=
  (readEntries "Entity" data).andThen fun entries =>
    withNothingElse
      (Entity.mk
        <$> required "entity_namespace" readText entries
        <*> required "entity_class" readText entries
        <*> defaulted "entity_base_class" none (readOptional readText) entries
        <*> defaulted "table_name" "" readText entries
        <*> defaulted "table_schema" none (readOptional readText) entries
        <*> defaulted "properties" [] (readList Property.read) entries
        <*> defaulted "relationships" [] (readList Relationship.read) entries)
      (fieldNames
        [ "entity_namespace", "entity_class", "entity_base_class", "table_name",
          "table_schema", "properties", "relationships" ])
      entries

namespace EntityModel

/-- The values that occur more than once, each once and in increasing order. -/
def duplicates (names : List Text) : List Text :=
  (names.eraseDups.filter fun name => 1 < names.count name).mergeSort (· ≤ ·)

/-- The model of some entities, unless two of them have one dotted name. -/
def ofEntities (entities : List Entity) : Checked EntityModel :=
  if distinct : (entities.map Entity.dottedName).Nodup then
    .valid ⟨entities, distinct⟩
  else
    .issue (.duplicateEntities (duplicates (entities.map Entity.dottedName)))

/-- Reads a model. -/
def read (data : Data) : Checked EntityModel :=
  (readEntries "EntityModel" data).andThen fun entries =>
    (withNothingElse (defaulted "entities" [] (readList Entity.read) entries)
      (fieldNames ["entities"]) entries).andThen ofEntities

end EntityModel

namespace GeneratorOptions

/-- The number of spaces per level of indentation: from one to eight. -/
def readIndentSize (data : Data) :
    Checked { size : Nat // 1 ≤ size ∧ size ≤ 8 } :=
  (readInt data).andThen fun number =>
    if range : 1 ≤ number.toNat ∧ number.toNat ≤ 8 then .valid ⟨number.toNat, range⟩
    else .issue (if 8 < number then .aboveMaximum 8 else .belowMinimum 1)

/-- The extension with a dot in front, which is added where it is missing. -/
def dotted (extension : Text) (encodable : extension.isEncodable = true) :
    { text : Text // text.toList.head? = some (.scalar '.') ∧ text.isEncodable = true } :=
  if isDotted : extension.toList.head? = some (.scalar '.') then ⟨extension, isDotted, encodable⟩
  else ⟨"." ++ extension, rfl, by rw [Text.isEncodable_append, encodable]; rfl⟩

/-- Reads a file extension, which must not be empty or hold a surrogate. -/
def readExtension (data : Data) :
    Checked { text : Text // text.toList.head? = some (.scalar '.') ∧ text.isEncodable = true } :=
  (readText data).andThen fun extension =>
    if encodable : extension.isEncodable = true then
      if extension.isEmpty then .issue .stringTooShort else .valid (dotted extension encodable)
    else .issue .stringUnicode

/-- The names of each field.  The flags have a second spelling. -/
def fieldNames : List (List Text) :=
  [ ["document", "Document"], ["file_scoped_namespace", "FileScopedNamespace"],
    ["nullable", "Nullable"], ["indent_size"], ["file_extension"] ]

/-- Options of settings, each of which was checked by itself. -/
def ofChecked (document fileScopedNamespace nullable : Bool)
    (size : { size : Nat // 1 ≤ size ∧ size ≤ 8 })
    (extension :
      { text : Text // text.toList.head? = some (.scalar '.') ∧ text.isEncodable = true }) :
    GeneratorOptions :=
  ⟨document, fileScopedNamespace, nullable, size.1, extension.1, size.2, extension.2.1,
    extension.2.2⟩

/-- Reads options. -/
def read (data : Data) : Checked GeneratorOptions :=
  (readEntries "GeneratorOptions" data).andThen fun entries =>
    withNothingElse
      (ofChecked
        <$> defaultedAs ["document", "Document"] false readBool entries
        <*> defaultedAs ["file_scoped_namespace", "FileScopedNamespace"] false readBool entries
        <*> defaultedAs ["nullable", "Nullable"] false readBool entries
        <*> defaulted "indent_size" ⟨4, by decide⟩ readIndentSize entries
        <*> defaulted "file_extension" ⟨".cs", by decide⟩ readExtension entries)
      fieldNames entries

end GeneratorOptions

end EntityForge
