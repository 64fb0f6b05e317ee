import EntityForge.Decimal.Double

/-!
# Shortest decimals

The fewest decimal digits that read back as the same double, and among those the nearest to it.
Whole numbers keep a fraction of zero; magnitudes from `10 ^ 16` on and below `10 ^ (-4)` are
written with an exponent.
-/

namespace EntityForge.Decimal

/-- The number of decimal digits of a natural number. -/
def digitCount (number : Nat) : Nat :=
  (Nat.toDigits 10 number).length

/-- The decimal exponent of the leading digit of a positive fraction. -/
def leadingPower (numerator denominator : Nat) : Int :=
  let estimate : Int := (digitCount numerator : Int) - digitCount denominator
  let scaled := scaledFraction 10 numerator denominator (-estimate)
  if scaled.2 ≤ scaled.1 then estimate else estimate - 1

/-- The reals that read as a double: a fraction with its lower and upper bound over one
denominator.  The bounds belong to the interval when the significand is even. -/
structure ReadingInterval where
  lower : Nat
  centre : Nat
  upper : Nat
  denominator : Nat
  closed : Bool

/-- The interval around `significand * 2 ^ exponent`.  Below a power of two the doubles are twice
as dense, which brings the lower bound nearer. -/
def readingInterval (significand : Nat) (exponent : Int) : ReadingInterval :=
  let narrow := significand = Nat.pow 2 52 ∧ leastExponent < exponent
  let lower := scaledFraction 2 (4 * significand - if narrow then 1 else 2) 1 (exponent - 2)
  let centre := scaledFraction 2 (4 * significand) 1 (exponent - 2)
  let upper := scaledFraction 2 (4 * significand + 2) 1 (exponent - 2)
  ⟨lower.1, centre.1, upper.1, centre.2, significand % 2 = 0⟩

/-- The nearest decimal of the form `digits * 10 ^ power` inside the interval. -/
def ReadingInterval.onGrid? (interval : ReadingInterval) (power : Int) : Option Nat :=
  let scale := scaledFraction 10 1 1 power
  let below := interval.centre * scale.2 / (interval.denominator * scale.1)
  let position (digits : Nat) : Nat := digits * scale.1 * interval.denominator
  let inside (digits : Nat) : Bool :=
    let lower := interval.lower * scale.2
    let upper := interval.upper * scale.2
    if interval.closed then lower ≤ position digits && position digits ≤ upper
    else lower < position digits && position digits < upper
  let centre := interval.centre * scale.2
  match inside below, inside (below + 1) with
  | false, false => none
  | true, false => some below
  | false, true => some (below + 1)
  | true, true =>
      let fall := centre - position below
      let rise := position (below + 1) - centre
      if fall < rise || (fall = rise && below % 2 = 0) then some below else some (below + 1)

/-- The digits and the power of ten of the shortest decimal of a positive double. -/
def shortestDigits (significand : Nat) (exponent : Int) : Nat × Int :=
  let interval := readingInterval significand exponent
  let leading := leadingPower interval.centre interval.denominator
  let found := (List.range 17).findSome? fun places : Nat =>
    let power : Int := leading - places
    (interval.onGrid? power).map (·, power)
  found.getD (0, 0)

/-- Lays digits out around a decimal point that stands before the digit at `leading`. -/
def positional (digits : List Char) (leading : Int) : List Char :=
  if leading < 0 then
    ['0', '.'] ++ List.replicate (-leading - 1).toNat '0' ++ digits
  else
    let whole := leading.toNat + 1
    let fraction := digits.drop whole
    let padded := digits.take whole ++ List.replicate (whole - digits.length) '0'
    padded ++ '.' :: (if fraction.isEmpty then ['0'] else fraction)

/-- Digits with an exponent of at least two digits and always a sign. -/
def exponential (digits : List Char) (leading : Int) : List Char :=
  let mantissa :=
    match digits with
    | [] => []
    | [single] => [single]
    | first :: rest => first :: '.' :: rest
  let magnitude := Nat.toDigits 10 leading.natAbs
  mantissa ++ ['e', if leading < 0 then '-' else '+'] ++
    List.replicate (2 - magnitude.length) '0' ++ magnitude

/-- The shortest decimal of a double. -/
def shortest (value : Float) : String :=
  match Double.ofFloat value with
  | .notANumber => "nan"
  | .infinite negative => if negative then "-inf" else "inf"
  | .finite negative significand exponent =>
      let body :=
        if significand = 0 then
          ['0', '.', '0']
        else
          let (number, power) := shortestDigits significand exponent
          let digits := Nat.toDigits 10 number
          let leading := power + digits.length - 1
          let digits := (digits.reverse.dropWhile (· == '0')).reverse
          if leading < -4 || 16 ≤ leading then exponential digits leading
          else positional digits leading
      String.ofList (if negative then '-' :: body else body)

end EntityForge.Decimal
