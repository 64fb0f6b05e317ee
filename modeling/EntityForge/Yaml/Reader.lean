import EntityForge.Data.Keys
import EntityForge.Yaml.Document
import EntityForge.Yaml.Scalar

/-!
# Reading YAML

The data that a document denotes.  Collections are filled level by level: a fault in an outer
collection is reported before any fault in a collection inside it, and within one level the first
fault counts.
-/

namespace EntityForge.Yaml

/-- A value, or a fault together with the level at which it arises. -/
abbrev Leveled (α : Type) := Except (Nat × Fault) α

namespace Leveled

/-- A fault that arises at once. -/
def fail {α : Type} (fault : Fault) : Leveled α :=
  .error (0, fault)

/-- The same outcome one level further inside. -/
def deeper {α : Type} : Leveled α → Leveled α
  | .ok value => .ok value
  | .error (level, fault) => .error (level + 1, fault)

/-- Two outcomes, of which the fault of the lesser level counts, and the first one within a
level. -/
def both {α β : Type} : Leveled α → Leveled β → Leveled (α × β)
  | .ok first, .ok second => .ok (first, second)
  | .ok _, .error fault => .error fault
  | .error fault, .ok _ => .error fault
  | .error first, .error second => .error (if second.1 < first.1 then second else first)

/-- All outcomes of a list. -/
def all {α : Type} : List (Leveled α) → Leveled (List α)
  | [] => .ok []
  | first :: rest => (both first (all rest)).map fun pair => pair.1 :: pair.2

/-- A value that is made at once or not at all. -/
def ofExcept {α : Type} (value : Except Fault α) : Leveled α :=
  value.mapError (0, ·)

end Leveled

/-- Whether a tag makes a collection, which is filled after the collection around it. -/
def Tag.isCollection : Tag → Bool
  | .sequence | .mapping | .orderedMap | .pairs | .set => true
  | _ => false

namespace Node

def tag : Node → Tag
  | .scalar tag _ => tag
  | .sequence tag _ => tag
  | .mapping tag _ => tag
  | .cycle _ => .other

mutual

/-- The text that a node stands for: its own, or that of the default value of a mapping. -/
def text? : Node → Option Text
  | .scalar _ text => some text
  | .mapping _ entries => defaultText? entries
  | .sequence .. | .cycle _ => none

/-- The text of the first default value. -/
def defaultText? : List (Node × Node) → Option Text
  | [] => none
  | (key, value) :: rest => if key.tag == .default then value.text? else defaultText? rest

end

/-- The value of a node that is no collection. -/
def scalarValue (tag : Tag) (node : Node) : Except Fault Data :=
  match node.text? with
  | none => .error .malformed
  | some text =>
      match tag, node with
      | .timestamp, .mapping .. => .error (.timestamp .notAText)
      | _, _ => valueOfText tag text

/-- The outcome of a mapping's entries, which are put one after the other. -/
def filled (entries : List (Leveled Data × Leveled Data)) : Leveled (List (Data × Data)) :=
  (Leveled.all (entries.map fun entry => Leveled.both entry.1 entry.2)).map (Data.putAll [])

mutual

/-- The value of a node. -/
def value : Node → Leveled Data
  | .scalar tag text =>
      if tag.isCollection then Leveled.deeper (.fail .malformed)
      else .ofExcept (scalarValue tag (.scalar tag text))
  | .sequence tag items =>
      match tag with
      | .sequence => Leveled.deeper ((Leveled.all (values items)).map Data.list)
      | .orderedMap | .pairs => Leveled.deeper ((Leveled.all (pairValues items)).map Data.list)
      | tag => if tag.isCollection then Leveled.deeper (.fail .malformed) else .fail .malformed
  | .mapping tag entries =>
      match tag with
      | .mapping =>
          match mergedEntries entries with
          | .ok (merged, own) => Leveled.deeper ((filled (merged ++ own)).map Data.map)
          | .error fault => Leveled.deeper (.fail fault)
      | .set =>
          match mergedEntries entries with
          | .ok (merged, own) =>
              Leveled.deeper ((filled (merged ++ own)).map fun entries =>
                Data.set (entries.map (·.1)))
          | .error fault => Leveled.deeper (.fail fault)
      | tag =>
          if tag.isCollection then Leveled.deeper (.fail .malformed)
          else .ofExcept (scalarValue tag (.mapping tag entries))
  | .cycle _ => .fail .malformed

/-- The values of nodes. -/
def values : List Node → List (Leveled Data)
  | [] => []
  | item :: rest => value item :: values rest

/-- The pairs of mappings with one entry each. -/
def pairValues : List Node → List (Leveled Data)
  | [] => []
  | .mapping _ entries :: rest => pairValue entries :: pairValues rest
  | _ :: rest => .fail .malformed :: pairValues rest

/-- The pair of a single entry. -/
def pairValue : List (Node × Node) → Leveled Data
  | [(key, item)] =>
      (Leveled.both (value key) (value item)).map fun pair => Data.tuple [pair.1, pair.2]
  | _ => .fail .malformed

/-- The entries of a mapping: those that are merged into it, and its own, which win over them.
Keys must not be collections, and the key of a default value is a text. -/
def mergedEntries : List (Node × Node) →
    Except Fault (List (Leveled Data × Leveled Data) × List (Leveled Data × Leveled Data))
  | [] => .ok ([], [])
  | (key, item) :: rest =>
      if key.tag == .merge then do
        let here ←
          match item with
          | .mapping _ entries => (mergedEntries entries).map fun parts => parts.1 ++ parts.2
          | .sequence _ items => mergedItems items
          | _ => .error .malformed
        let (merged, own) ← mergedEntries rest
        .ok (here ++ merged, own)
      else do
        let (merged, own) ← mergedEntries rest
        let keyValue : Leveled Data :=
          if key.tag == .default then .ofExcept (scalarValue .text key)
          else if key.tag.isCollection then .fail .malformed
          else value key
        .ok (merged, (keyValue, value item) :: own)

/-- The entries of mappings that are merged together.  The first mapping that has a key wins, so
it is put last. -/
def mergedItems : List Node → Except Fault (List (Leveled Data × Leveled Data))
  | [] => .ok []
  | .mapping _ entries :: rest => do
      let (merged, own) ← mergedEntries entries
      let later ← mergedItems rest
      .ok (later ++ merged ++ own)
  | _ :: _ => .error .malformed

end

end Node

/-- Reads a document.  An empty stream holds null. -/
def read (document : String) : Except Fault Data := do
  match ← readSingle (TokenStream.ofDocument document) with
  | none => return .null
  | some node => (node.value).mapError (·.2)

end EntityForge.Yaml
