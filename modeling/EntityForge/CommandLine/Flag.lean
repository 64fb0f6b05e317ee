import EntityForge.Text.Basic

/-!
# Flags

The flags of the command line and their spellings: each has a word behind two dashes, some have a
letter behind one dash as well.
-/

namespace EntityForge.CommandLine

/-- A flag that stands alone. -/
inductive Switch where
  | help
  | version
  | validateOnly
  | dryRun
  | document
  | nullable
  | fileScopedNamespace
  | strict
  | failOnWarnings
  | verbose
  | quiet
  deriving BEq, DecidableEq, Repr

/-- A flag that needs a value. -/
inductive Setting where
  | model
  | output
  | indentSize
  deriving BEq, DecidableEq, Repr

/-- A flag. -/
inductive Flag where
  | switch (switch : Switch)
  | setting (setting : Setting)
  deriving BEq, DecidableEq, Repr

namespace Switch

/-- The word of a switch. -/
def word : Switch → Text
  | .help => "help"
  | .version => "version"
  | .validateOnly => "validate-only"
  | .dryRun => "dry-run"
  | .document => "document"
  | .nullable => "nullable"
  | .fileScopedNamespace => "file-scoped-namespace"
  | .strict => "strict"
  | .failOnWarnings => "fail-on-warnings"
  | .verbose => "verbose"
  | .quiet => "quiet"

/-- The letter of a switch, if it has one. -/
def letter? : Switch → Option Point
  | .help => some 'h'
  | .verbose => some 'v'
  | .quiet => some 'q'
  | _ => none

end Switch

namespace Setting

/-- The word of a setting. -/
def word : Setting → Text
  | .model => "model"
  | .output => "output"
  | .indentSize => "indent-size"

/-- The letter of a setting, if it has one. -/
def letter? : Setting → Option Point
  | .model => some 'm'
  | .output => some 'o'
  | .indentSize => none

end Setting

namespace Flag

/-- All flags in the order in which they are listed. -/
def all : List Flag :=
  [ .switch .help, .switch .version, .setting .model, .setting .output, .switch .validateOnly,
    .switch .dryRun, .switch .document, .switch .nullable, .switch .fileScopedNamespace,
    .setting .indentSize, .switch .strict, .switch .failOnWarnings, .switch .verbose,
    .switch .quiet ]

/-- The word of a flag. -/
def word : Flag → Text
  | .switch flag => flag.word
  | .setting flag => flag.word

/-- The letter of a flag, if it has one. -/
def letter? : Flag → Option Point
  | .switch flag => flag.letter?
  | .setting flag => flag.letter?

/-- The word of a flag behind its dashes. -/
def spelledWord (flag : Flag) : Text :=
  "--" ++ flag.word

/-- All spellings of a flag, as messages name it. -/
def describe (flag : Flag) : Text :=
  match flag.letter? with
  | some letter => "-" ++ Text.ofList [letter] ++ "/" ++ flag.spelledWord
  | none => flag.spelledWord

/-- The flag with a letter. -/
def ofLetter? (letter : Point) : Option Flag :=
  all.find? fun flag => flag.letter? == some letter

/-- The flags that a word may mean: the one with just that word, else all whose words begin with
it. -/
def candidates (word : List Point) : List Flag :=
  match all.find? fun flag => flag.word.toList == word with
  | some flag => [flag]
  | none => all.filter fun flag => word.isPrefixOf flag.word.toList

end Flag

end EntityForge.CommandLine
