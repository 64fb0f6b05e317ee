import EntityForge.Decimal.Numeral

/-!
# Faults of YAML documents

Why a document was refused.  Most faults are violations of the grammar; a scalar that has the
shape of a value but denotes none has a fault of its own.
-/

namespace EntityForge.Yaml

/-- Why the text of a timestamp is no date or moment. -/
inductive TimestampFault where
  | notATimestamp
  /-- A mapping stands where a timestamp is expected. -/
  | notAText
  | year
  | month
  | day
  | hour
  | minute
  | second
  /-- An offset of a day or more, in minutes. -/
  | offset (minutes : Int)
  deriving BEq, DecidableEq, Repr

/-- Why a document was refused. -/
inductive Fault where
  /-- The document breaks the grammar, or holds a value that the data model has no place for. -/
  | malformed
  | numeral (fault : Decimal.NumeralFault)
  /-- A number without any character. -/
  | emptyNumeral
  /-- A word that is no truth value, in lower case. -/
  | notATruthValue (word : Text)
  /-- An escape beyond the last code point. -/
  | codePointOutOfRange
  /-- An escape beyond the range of a signed word. -/
  | codePointTooLarge
  | timestamp (fault : TimestampFault)
  deriving BEq, DecidableEq, Repr

/-- An interval of minutes in days and seconds, leaving out what is zero. -/
def intervalText (minutes : Int) : String :=
  let days := minutes.fdiv 1440
  let seconds := minutes.fmod 1440 * 60
  let parts :=
    (if days = 0 then [] else [s!"days={days}"]) ++
      (if seconds = 0 then [] else [s!"seconds={seconds}"])
  "datetime.timedelta(" ++ (if parts.isEmpty then "0" else ", ".intercalate parts) ++ ")"

/-- The wording of a timestamp's fault. -/
def TimestampFault.message : TimestampFault → String
  | .notATimestamp => "'NoneType' object has no attribute 'groupdict'"
  | .notAText => "expected string or bytes-like object, got 'list'"
  | .year => "year 0 is out of range"
  | .month => "month must be in 1..12"
  | .day => "day is out of range for month"
  | .hour => "hour must be in 0..23"
  | .minute => "minute must be in 0..59"
  | .second => "second must be in 0..59"
  | .offset minutes =>
      "offset must be a timedelta strictly between -timedelta(hours=24) and " ++
        s!"timedelta(hours=24), not {intervalText minutes}."

/-- The wording of a fault.  Violations of the grammar are not told apart. -/
def Fault.message : Fault → Text
  | .malformed => "malformed document"
  | .numeral fault => fault.message
  | .emptyNumeral => "string index out of range"
  | .notATruthValue word => Text.quoted word
  | .codePointOutOfRange => "chr() arg not in range(0x110000)"
  | .codePointTooLarge => "Python int too large to convert to C int"
  | .timestamp fault => fault.message

end EntityForge.Yaml
