import EntityForge.CommandLine.Run

/-!
# The program

The command line on the real file system.  What the arguments name is taken into a file tree, the
run is carried out on that value, and what it changed is written back.
-/

namespace EntityForge.CommandLine

/-- A text as it appears on a terminal. -/
def shownText (text : Text) : String :=
  String.ofList text.characters

/-- The written form of a place. -/
def placeText (place : List Text) : String :=
  shownText (Files.Path.mk "/" place).text

/-- A tree with what stands at a place of the file system. -/
def look (tree : Files.Tree) (place : List Text) : IO Files.Tree := do
  let found := (← IO.currentDir) / placeText place
  if ← found.isDir then
    return tree.put place .directory
  else if ← found.pathExists then
    return tree.put place (.file (← IO.FS.readBinFile found).toList)
  else
    return tree

/-- A tree with what stands at a place, above it, and directly in it. -/
def lookAround (tree : Files.Tree) (path : Files.Path) : IO Files.Tree := do
  let place := (path.resolve tree.workingDirectory).parts
  let above ← ((List.range' 1 place.length).map place.take).foldlM look tree
  let found := (← IO.currentDir) / placeText place
  if ← found.isDir then
    let inside := (← found.readDir).toList.map fun entry => place.concat entry.fileName
    inside.foldlM look above
  else
    return above

/-- The tree that a run needs to see. -/
def surroundings (arguments : List Text) : IO Files.Tree := do
  let here := Files.Path.ofText ↑(← IO.currentDir).toString
  let start : Files.Tree := { workingDirectory := here.parts }
  match Invocation.read arguments with
  | .error _ => return start
  | .ok invocation =>
      let named := invocation.model :: invocation.settings.output.toList
      (named.map Files.Path.ofText).foldlM lookAround start

/-- Writes the nodes of a tree that are new or changed, the outer ones first. -/
def writeBack (before after : Files.Tree) : IO Unit := do
  let changed := after.nodes.filter fun (place, content) => before.at? place != some content
  let ordered := changed.mergeSort fun left right => left.1.length ≤ right.1.length
  ordered.forM fun (place, content) =>
    match content with
    | .directory => IO.FS.createDirAll (placeText place)
    | .file bytes => IO.FS.writeBinFile (placeText place) ⟨bytes.toArray⟩

/-- Runs the program with its arguments.  The result is the exit code. -/
def program (arguments : List Text) : IO UInt32 := do
  let before ← surroundings arguments
  match run arguments before with
  | .error fault =>
      IO.eprintln (shownText (programName ++ ": " ++ fault.message))
      return 1
  | .ok (outcome, after) =>
      writeBack before after
      outcome.output.forM fun line => IO.println (shownText line)
      outcome.notices.forM fun notice => IO.eprintln (shownText notice.text)
      return outcome.exit.code.toUInt32

end EntityForge.CommandLine

/-- The program. -/
def main (arguments : List String) : IO UInt32 :=
  EntityForge.CommandLine.program (arguments.map EntityForge.Text.ofString)
