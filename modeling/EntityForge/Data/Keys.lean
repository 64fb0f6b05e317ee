import EntityForge.Data.Basic

/-!
# Keys of mappings

Two keys of a mapping are the same when they are equal as values.  Numbers of different kinds are
compared by their exact value, so that `1`, `1.0` and `true` are one key, and moments with an
offset are compared as instants.
-/

namespace EntityForge

/-- The number of days before a date in the proleptic Gregorian calendar. -/
def Date.dayNumber (date : Date) : Int :=
  let shifted : Int := if date.month ≤ 2 then date.year - 1 else date.year
  let month : Int := if date.month ≤ 2 then date.month + 9 else date.month - 3
  365 * shifted + shifted / 4 - shifted / 100 + shifted / 400 + (153 * month + 2) / 5 + date.day

/-- The minute of universal time in which a moment lies, counted like its days. -/
def Moment.minuteNumber (moment : Moment) : Int :=
  moment.date.dayNumber * 1440 + moment.hour * 60 + moment.minute - moment.offset.getD 0

/-- Whether two moments are equal: both without an offset, or one instant. -/
def Moment.same (left right : Moment) : Bool :=
  left.offset.isSome == right.offset.isSome &&
    left.minuteNumber == right.minuteNumber &&
    left.second == right.second &&
    left.microsecond == right.microsecond

namespace Data

/-- The exact value of a number. -/
inductive ExactNumber where
  | whole (value : Int)
  | other (value : Decimal.Double)
  deriving BEq, DecidableEq, Repr

/-- The exact value of a truth value or number. -/
def exactNumber? : Data → Option ExactNumber
  | .bool value => some (.whole (if value then 1 else 0))
  | .int value => some (.whole value)
  | .float value =>
      let double := Decimal.Double.ofFloat value
      some (if double.isWhole then .whole double.truncate else .other double)
  | _ => none

/-- Whether two keys are the same key of a mapping. -/
def sameKey : Data → Data → Bool
  | .null, .null => true
  | .text left, .text right => left == right
  | .bytes left, .bytes right => left == right
  | .date left, .date right => left == right
  | .moment left, .moment right => left.same right
  | left, right =>
      match left.exactNumber?, right.exactNumber? with
      | some leftNumber, some rightNumber => leftNumber == rightNumber
      | _, _ => false

/-- The entries with a value put under a key.  A key that is there keeps its place and its
spelling. -/
def put (key value : Data) : List (Data × Data) → List (Data × Data)
  | [] => [(key, value)]
  | (present, old) :: rest =>
      if present.sameKey key then (present, value) :: rest
      else (present, old) :: put key value rest

/-- The entries that result from putting pairs one after the other. -/
def putAll (entries : List (Data × Data)) (pairs : List (Data × Data)) : List (Data × Data) :=
  pairs.foldl (fun known pair => put pair.1 pair.2 known) entries

end Data

end EntityForge
