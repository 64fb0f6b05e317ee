import EntityForge.Decimal.Double

/-!
# Fixed decimals

Numbers with a fixed count of places, rounded from their exact value with ties to the even last
digit, and whole numbers in groups of three digits.
-/

namespace EntityForge.Decimal

/-- The digits of a natural number with a point before the last `places` of them. -/
def withPlaces (places number : Nat) : List Char :=
  let digits := Nat.toDigits 10 number
  let padded := List.replicate (places + 1 - digits.length) '0' ++ digits
  let whole := padded.length - places
  padded.take whole ++ (if places = 0 then [] else '.' :: padded.drop whole)

/-- A double with a fixed count of places. -/
def fixed (places : Nat) (value : Float) : String :=
  match Double.ofFloat value with
  | .notANumber => "nan"
  | .infinite negative => if negative then "-inf" else "inf"
  | .finite negative significand exponent =>
      let scaled := scaledFraction 2 (significand * Nat.pow 10 places) 1 exponent
      let body := withPlaces places (roundQuotient scaled.1 scaled.2)
      String.ofList (if negative then '-' :: body else body)

/-- Puts a comma before every group of three digits, counted from the end.  The digits come in
reverse. -/
def groupReversed : List Char → List Char
  | first :: second :: third :: fourth :: rest =>
      first :: second :: third :: ',' :: groupReversed (fourth :: rest)
  | digits => digits

/-- A whole number with commas between its thousands. -/
def grouped (number : Int) : String :=
  let body := (groupReversed (Nat.toDigits 10 number.natAbs).reverse).reverse
  String.ofList (if number < 0 then '-' :: body else body)

end EntityForge.Decimal
