import RouteHighlight.Decimal.Basic

/-!
# The shortest decimal

Of all decimal numbers that read back as a given float, the one with the fewest digits, and of
those the nearest to the float.
-/

namespace RouteHighlight

inductive FloatReading where
  | notANumber
  | infinite (negative : Bool)
  | finite (negative : Bool) (mantissa : Nat) (exponent : Int)
  deriving DecidableEq, Repr

def FloatReading.ofFloat (x : Float) : FloatReading :=
  let bits := x.toBits.toNat
  let negative := bits / signBit == 1
  let biased : Nat := bits / hiddenBit % 2048
  let fraction := bits % hiddenBit
  if biased = 2047 then
    if fraction = 0 then .infinite negative else .notANumber
  else if biased = 0 then .finite negative fraction (-1074)
  else .finite negative (hiddenBit + fraction) ((biased : Int) - 1075)

namespace Decimal

/-- The numbers that read back as a float lie between `low` and `high`, around `value`; all are
counted in one unit. The ends belong to them if `closed`. -/
structure Neighbourhood where
  low : Nat
  value : Nat
  high : Nat
  closed : Bool

def Neighbourhood.contains (n : Neighbourhood) (x : Nat) : Bool :=
  if n.closed then n.low ≤ x && x ≤ n.high else n.low < x && x < n.high

/-- The neighbourhood of `mantissa * 2 ^ exponent`, and the power of ten that is its unit. Half
the distance to the next float lies on either side, but only a quarter below a power of two,
where the floats are twice as dense. -/
def Neighbourhood.ofFinite (mantissa : Nat) (exponent : Int) : Neighbourhood × Int :=
  let atPower := mantissa == hiddenBit && exponent > -1074
  let quarters (n : Nat) : Nat :=
    match exponent - 2 with
    | .ofNat k => n * Nat.pow 2 k
    | .negSucc k => n * Nat.pow 5 (k + 1)
  (⟨quarters (4 * mantissa - if atPower then 1 else 2), quarters (4 * mantissa),
      quarters (4 * mantissa + 2), mantissa % 2 == 0⟩,
    min (exponent - 2) 0)

/-- The multiple of `10 ^ place` next to the value that reads back; of two the nearer, and the
larger if they are equally near. -/
def Neighbourhood.onGrid? (n : Neighbourhood) (place : Nat) : Option Nat :=
  let spacing := Nat.pow 10 place
  let below := n.value / spacing
  let above := below + 1
  match n.contains (below * spacing), n.contains (above * spacing) with
  | true, true => some (if 2 * (n.value % spacing) < spacing then below else above)
  | true, false => some below
  | false, true => some above
  | false, false => none

/-- The coarsest multiple of a power of ten that reads back, with its power, at most
`10 ^ place`. The value itself reads back, so the search ends there. -/
def Neighbourhood.coarsest (n : Neighbourhood) : Nat → Nat × Nat
  | 0 => (n.value, 0)
  | place + 1 =>
    match n.onGrid? (place + 1) with
    | some multiple => (multiple, place + 1)
    | none => n.coarsest place

def shortest (negative : Bool) (mantissa : Nat) (exponent : Int) : Decimal :=
  if mantissa = 0 then ⟨negative, 0, 0⟩
  else
    let (neighbourhood, unit) := Neighbourhood.ofFinite mantissa exponent
    let (digits, place) := neighbourhood.coarsest (digitsText neighbourhood.high).length
    ⟨negative, digits, unit + place⟩

end Decimal

def floatText (x : Float) : String :=
  match FloatReading.ofFloat x with
  | .notANumber => "NaN"
  | .infinite negative => if negative then "-inf" else "inf"
  | .finite negative mantissa exponent =>
    String.ofList (Decimal.shortest negative mantissa exponent).positional

end RouteHighlight
