import RouteHighlight.Decimal.Basic

/-!
# The nearest float

The float nearest to a decimal number; of two that are equally near, the one with an even
mantissa. Numbers beyond the largest float become infinite.
-/

namespace RouteHighlight

def roundHalfEven (num den : Nat) : Nat :=
  let quotient := num / den
  let twice := 2 * (num % den)
  if twice < den then quotient
  else if twice > den then quotient + 1
  else quotient + quotient % 2

/-- The bits of the float nearest to the positive fraction `num / den`, up to those of infinity.
The mantissa is scaled so that it has 53 bits, or as many as the smallest exponent leaves it;
rounding up to the next power of two then carries into the exponent. -/
def nearestBits (num den : Nat) : Nat :=
  let estimate : Int := (num.log2 : Int) - den.log2 - 52
  let scaled (q : Int) : Nat × Nat :=
    match q with
    | .ofNat n => (num, den * Nat.pow 2 n)
    | .negSucc n => (num * Nat.pow 2 (n + 1), den)
  let fits (q : Int) : Bool :=
    let (n, d) := scaled q
    hiddenBit * d ≤ n
  let exponent := max (if fits estimate then estimate else estimate - 1) (-1074)
  let (n, d) := scaled exponent
  let bits := (exponent + 1074).toNat * hiddenBit + roundHalfEven n d
  min bits (2047 * hiddenBit)

namespace Decimal

/-- The float nearest to the number. Exponents far beyond the range of floats are decided
without their powers of ten. -/
def toFloat (d : Decimal) : Float :=
  let places : Int := (digitsText d.digits).length + d.exponent
  let bits :=
    if d.digits = 0 ∨ places < -400 then 0
    else if places > 400 then 2047 * hiddenBit
    else
      match d.exponent with
      | .ofNat n => nearestBits (d.digits * Nat.pow 10 n) 1
      | .negSucc n => nearestBits d.digits (Nat.pow 10 (n + 1))
  let sign := if d.negative then signBit else 0
  Float.ofBits (UInt64.ofNat (sign + bits))

end Decimal

end RouteHighlight
