import EntityForge.CommandLine.Flag
import EntityForge.Text.DecimalDigits
import EntityForge.Text.Quoted
import EntityForge.Text.Split

/-!
# Arguments

What each argument of a command line is on its own: a flag by its word, flags by their letters, or
a plain text.  A word may be shortened as long as it means one flag only.
-/

namespace EntityForge.CommandLine

/-- Why arguments are refused. -/
inductive UsageFault where
  | ambiguous (text : Text) (candidates : List Flag)
  | valueMissing (setting : Setting)
  | valueRefused (switch : Switch) (value : Text)
  | notWhole (setting : Setting) (value : Text)
  | modelMissing
  | unrecognized (texts : List Text)
  deriving BEq, DecidableEq, Repr

/-- The wording of a fault. -/
def UsageFault.message : UsageFault → Text
  | .ambiguous text candidates =>
      "ambiguous option: " ++ text ++ " could match " ++
        Text.intercalate ", " (candidates.map Flag.spelledWord)
  | .valueMissing setting =>
      "argument " ++ ((Flag.setting setting).describe) ++ ": expected one argument"
  | .valueRefused switch value =>
      "argument " ++ ((Flag.switch switch).describe) ++ ": ignored explicit argument " ++
        Text.quoted value
  | .notWhole setting value =>
      "argument " ++ (Flag.setting setting).describe ++ ": invalid int value: " ++
        Text.quoted value
  | .modelMissing =>
      "the following arguments are required: " ++ ((Flag.setting .model).describe)
  | .unrecognized texts => "unrecognized arguments: " ++ Text.intercalate " " texts

/-- An argument. -/
inductive Argument where
  | plain (text : Text)
  /-- Two dashes alone: all that follows is plain. -/
  | divider
  /-- A flag by its letter, with the characters behind the letter. -/
  | letters (flag : Flag) (rest : List Point)
  /-- A flag by its word, with the text behind an equals sign. -/
  | word (flag : Flag) (value : Option Text)
  /-- A text that looks like a flag but is none. -/
  | unknown (text : Text)
  deriving BEq, DecidableEq, Repr

namespace Argument

/-- The text of an argument without flags. -/
def text : Argument → Text
  | .plain text | .unknown text => text
  | .divider => "--"
  | .letters .. | .word .. => ""

/-- Whether the characters behind a dash make a negative number of it.  A line feed at the end does
no harm. -/
def isNumber (text : List Point) : Bool :=
  let text := if text.getLast? == some (.scalar '\n') then text.dropLast else text
  let isDigit (character : Point) : Bool := (character.char?.bind Text.decimalDigit?).isSome
  match text.dropWhile isDigit with
  | [] => !text.isEmpty
  | '.' :: fraction => !fraction.isEmpty && fraction.all isDigit
  | _ => false

/-- An argument that starts with a dash but names no flag. -/
def withoutFlag (text : Text) : Argument :=
  if isNumber (text.toList.drop 1) || text.toList.contains ' ' then .plain text
  else .unknown text

/-- Reads the argument with two dashes at its start and a text behind them. -/
def ofWord (text : Text) (behind : List Point) : Except UsageFault Argument :=
  let word := behind.takeWhile (· != .scalar '=')
  let value :=
    match behind.dropWhile (· != .scalar '=') with
    | [] => none
    | _ :: value => some (Text.ofList value)
  match Flag.candidates word with
  | [] => .ok (withoutFlag text)
  | [flag] => .ok (.word flag value)
  | several => .error (.ambiguous text several)

/-- Reads an argument. -/
def ofText (text : Text) : Except UsageFault Argument :=
  match text.toList with
  | ['-', '-'] => .ok .divider
  | '-' :: '-' :: behind => ofWord text behind
  | '-' :: letter :: rest =>
      match Flag.ofLetter? letter with
      | some flag => .ok (.letters flag rest)
      | none => .ok (withoutFlag text)
  | _ => .ok (.plain text)

/-- Reads all arguments. -/
def ofTexts : List Text → Except UsageFault (List Argument)
  | [] => .ok []
  | text :: rest => do
      match ← ofText text with
      | .divider => return .divider :: rest.map .plain
      | argument => return argument :: (← ofTexts rest)

end Argument

end EntityForge.CommandLine
