import EntityForge.Data.Basic
import EntityForge.Yaml.Fault

/-!
# Timestamps

Dates, and moments of a date, a time and an optional offset.  Reading the parts is apart from
checking that they denote a day and a time.
-/

namespace EntityForge.Yaml

/-- The offset of a moment as it is written. -/
inductive WrittenOffset where
  | universal
  | shifted (negative : Bool) (hours minutes : Nat)
  deriving BEq, DecidableEq, Repr

/-- The time of a moment as it is written. -/
structure WrittenTime where
  hour : Nat
  minute : Nat
  second : Nat
  fraction : List Char
  offset : Option WrittenOffset
  deriving BEq, DecidableEq, Repr

/-- A timestamp as it is written. -/
structure WrittenTimestamp where
  year : Nat
  month : Nat
  day : Nat
  time : Option WrittenTime
  /-- Whether month and day have two digits each. -/
  isPadded : Bool
  deriving BEq, DecidableEq, Repr

/-- Takes one or two digits. -/
def oneOrTwoDigits? (text : List Char) : Option (List Char × List Char) :=
  match (text.take 2).takeWhile Char.isDigit with
  | [] => none
  | digits => some (digits, text.drop digits.length)

/-- Takes an exact number of digits. -/
def exactDigits? (count : Nat) (text : List Char) : Option (Nat × List Char) :=
  let digits := text.take count
  if digits.length = count && digits.all Char.isDigit then
    some (Decimal.digitsIn 10 digits, text.drop count)
  else none

/-- The text behind a character that it must start with. -/
def behind? (character : Char) : List Char → Option (List Char)
  | first :: rest => if first = character then some rest else none
  | [] => none

/-- Reads the offset at the end of a moment.  Space may stand in front of it. -/
def readOffset? (text : List Char) : Option (Option WrittenOffset) :=
  if text.isEmpty then some none
  else
    match text.dropWhile fun character => character == ' ' || character == '\t' with
    | ['Z'] => some (some .universal)
    | sign :: rest => do
        if sign != '+' && sign != '-' then none
        let (hours, afterHours) ← oneOrTwoDigits? rest
        let minutes ←
          if afterHours.isEmpty then some 0
          else do
            let (minutes, ending) ← (behind? ':' afterHours).bind (exactDigits? 2)
            if ending.isEmpty then some minutes else none
        some (some (.shifted (sign == '-') (Decimal.digitsIn 10 hours) minutes))
    | [] => none

/-- Reads the time of a moment from the character between date and time on. -/
def readTime? (text : List Char) : Option WrittenTime := do
  let start ←
    match text with
    | 'T' :: rest | 't' :: rest => some rest
    | ' ' :: rest | '\t' :: rest =>
        some (rest.dropWhile fun character => character == ' ' || character == '\t')
    | _ => none
  let (hour, afterHour) ← oneOrTwoDigits? start
  let (minute, afterMinute) ← (behind? ':' afterHour).bind (exactDigits? 2)
  let (second, afterSecond) ← (behind? ':' afterMinute).bind (exactDigits? 2)
  let (fraction, afterFraction) :=
    match afterSecond with
    | '.' :: rest => (rest.takeWhile Char.isDigit, rest.dropWhile Char.isDigit)
    | rest => ([], rest)
  let offset ← readOffset? afterFraction
  return { hour := Decimal.digitsIn 10 hour, minute, second, fraction, offset }

/-- Reads a timestamp.  Month and day may have one digit. -/
def WrittenTimestamp.read? (text : List Char) : Option WrittenTimestamp := do
  let (year, afterYear) ← exactDigits? 4 text
  let (month, afterMonth) ← (behind? '-' afterYear).bind oneOrTwoDigits?
  let (day, afterDay) ← (behind? '-' afterMonth).bind oneOrTwoDigits?
  let time ← if afterDay.isEmpty then some none else (readTime? afterDay).map some
  return {
    year
    month := Decimal.digitsIn 10 month
    day := Decimal.digitsIn 10 day
    time
    isPadded := month.length = 2 && day.length = 2 }

/-- Whether a year of the Gregorian calendar has a leap day. -/
def isLeapYear (year : Nat) : Bool :=
  year % 4 = 0 && (year % 100 != 0 || year % 400 = 0)

/-- The number of days of a month. -/
def daysOfMonth (year month : Nat) : Nat :=
  if month = 2 then if isLeapYear year then 29 else 28
  else if month = 4 ∨ month = 6 ∨ month = 9 ∨ month = 11 then 30
  else 31

/-- The date of a year, a month and a day. -/
def dateOf (year month day : Nat) : Except TimestampFault Date :=
  if year = 0 then .error .year
  else if month = 0 ∨ 12 < month then .error .month
  else if day = 0 ∨ daysOfMonth year month < day then .error .day
  else .ok ⟨year, month, day⟩

/-- The offset in minutes, which must be less than a day. -/
def WrittenOffset.minutes : WrittenOffset → Except TimestampFault Int
  | .universal => .ok 0
  | .shifted negative hours minutes =>
      let magnitude : Int := hours * 60 + minutes
      let offset := if negative then -magnitude else magnitude
      if magnitude < 1440 then .ok offset else .error (.offset offset)

/-- The date or moment that a timestamp denotes.  The offset is checked before the date, the date
before the time; of the fraction six digits count. -/
def WrittenTimestamp.value (written : WrittenTimestamp) : Except TimestampFault Data :=
  match written.time with
  | none => (dateOf written.year written.month written.day).map .date
  | some time => do
      let offset ← time.offset.mapM WrittenOffset.minutes
      let date ← dateOf written.year written.month written.day
      if 23 < time.hour then throw .hour
      if 59 < time.minute then throw .minute
      if 59 < time.second then throw .second
      let digits := time.fraction.take 6
      let microsecond := Decimal.digitsIn 10 digits * Nat.pow 10 (6 - digits.length)
      return .moment ⟨date, time.hour, time.minute, time.second, microsecond, offset⟩

end EntityForge.Yaml
