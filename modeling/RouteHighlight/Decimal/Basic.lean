/-!
# Decimal numbers

A decimal number as it is written: a sign, digits and a power of ten.
-/

namespace RouteHighlight

/-- The weight of the leading bit of a float's mantissa, which is not stored. -/
def hiddenBit : Nat := 4503599627370496

def signBit : Nat := 9223372036854775808

/-- The number `digits * 10 ^ exponent`, or its negative. A zero keeps its sign. -/
structure Decimal where
  negative : Bool
  digits : Nat
  exponent : Int
  deriving DecidableEq, Repr

namespace Decimal

def digitsText (n : Nat) : List Char := Nat.toDigits 10 n

def intText : Int → List Char
  | .ofNat n => digitsText n
  | .negSucc n => '-' :: digitsText (n + 1)

def positional (d : Decimal) : List Char :=
  let digits := digitsText d.digits
  let magnitude :=
    match d.exponent with
    | .ofNat n => if d.digits = 0 then digits else digits ++ List.replicate n '0'
    | .negSucc n =>
      let places := n + 1
      let padded := List.replicate (places + 1 - digits.length) '0' ++ digits
      padded.take (padded.length - places) ++ '.' :: padded.drop (padded.length - places)
  if d.negative then '-' :: magnitude else magnitude

end Decimal

end RouteHighlight
