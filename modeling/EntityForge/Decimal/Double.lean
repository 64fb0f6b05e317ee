/-!
# Doubles as exact numbers

A finite double is a significand times a power of two.  This module takes doubles apart and finds
the double nearest to a fraction, ties to the even significand, in exact integer arithmetic.
-/

namespace EntityForge.Decimal

/-- A double taken apart. -/
inductive Double where
  | notANumber
  | infinite (negative : Bool)
  /-- The number `significand * 2 ^ exponent`.  The significand is below `2 ^ 53`. -/
  | finite (negative : Bool) (significand : Nat) (exponent : Int)
  deriving BEq, DecidableEq, Repr

/-- The least exponent of a finite double. -/
def leastExponent : Int := -1074

/-- The greatest exponent of a finite double. -/
def greatestExponent : Int := 971

/-- Takes a double apart. -/
def Double.ofFloat (value : Float) : Double :=
  let bits := value.toBits.toNat
  let negative := bits / Nat.pow 2 63 = 1
  let field : Nat := bits / Nat.pow 2 52 % Nat.pow 2 11
  let fraction := bits % Nat.pow 2 52
  if field = Nat.pow 2 11 - 1 then
    if fraction = 0 then .infinite negative else .notANumber
  else if field = 0 then
    .finite negative fraction leastExponent
  else
    .finite negative (Nat.pow 2 52 + fraction) ((field : Int) - 1075)

/-- Whether a double is a whole number. -/
def Double.isWhole : Double → Bool
  | .finite _ significand exponent =>
      0 ≤ exponent || significand % Nat.pow 2 (-exponent).toNat = 0
  | _ => false

/-- The whole part of a finite double, rounded toward zero. -/
def Double.truncate : Double → Int
  | .finite negative significand exponent =>
      let magnitude :=
        if 0 ≤ exponent then significand * Nat.pow 2 exponent.toNat
        else significand / Nat.pow 2 (-exponent).toNat
      if negative then -(magnitude : Int) else magnitude
  | _ => 0

/-- A quotient of natural numbers rounded to the nearest whole number, ties to the even one. -/
def roundQuotient (numerator denominator : Nat) : Nat :=
  let quotient := numerator / denominator
  let remainder := numerator % denominator
  if 2 * remainder > denominator || (2 * remainder = denominator && quotient % 2 = 1) then
    quotient + 1
  else
    quotient

/-- A number as a fraction, scaled by a power of a base. -/
def scaledFraction (base : Nat) (numerator denominator : Nat) (power : Int) : Nat × Nat :=
  if 0 ≤ power then (numerator * Nat.pow base power.toNat, denominator)
  else (numerator, denominator * Nat.pow base (-power).toNat)

/-- The double nearest to a positive fraction. -/
def nearestMagnitude (numerator denominator : Nat) : UInt64 :=
  let estimate : Int := (numerator.log2 : Int) - (denominator.log2 : Int) - 52
  let lower := scaledFraction 2 numerator denominator (-estimate)
  let exponent := if lower.1 / lower.2 < Nat.pow 2 52 then estimate - 1 else estimate
  let exponent := max exponent leastExponent
  let scaled := scaledFraction 2 numerator denominator (-exponent)
  let rounded := roundQuotient scaled.1 scaled.2
  let carried := rounded = Nat.pow 2 53
  let significand := if carried then Nat.pow 2 52 else rounded
  let exponent := if carried then exponent + 1 else exponent
  if greatestExponent < exponent then
    (0x7ff0000000000000 : UInt64)
  else if significand < Nat.pow 2 52 then
    UInt64.ofNat significand
  else
    UInt64.ofNat ((exponent + 1075).toNat * Nat.pow 2 52 + (significand - Nat.pow 2 52))

/-- The double nearest to a fraction with a sign of its own, so that zero may be negative. -/
def nearestFraction (negative : Bool) (numerator denominator : Nat) : Float :=
  let magnitude := if numerator = 0 then 0 else nearestMagnitude numerator denominator
  Float.ofBits (if negative then magnitude ||| 0x8000000000000000 else magnitude)

/-- The double nearest to `digits * 10 ^ power`.  Powers far outside the range of doubles are
answered without computing them. -/
def nearestDecimal (negative : Bool) (digits : Nat) (power : Int) : Float :=
  let size : Int := (Nat.toDigits 10 digits).length + power
  if digits = 0 || size < -400 then
    nearestFraction negative 0 1
  else if 400 < size then
    nearestFraction negative (Nat.pow 10 400) 1
  else
    let scaled := scaledFraction 10 digits 1 power
    nearestFraction negative scaled.1 scaled.2

/-- The double nearest to a whole number. -/
def nearestInt (number : Int) : Float :=
  nearestFraction (number < 0) number.natAbs 1

end EntityForge.Decimal
