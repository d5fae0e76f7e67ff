import RouteHighlight.Decimal.Nearest
import RouteHighlight.Text.Reader

/-!
# Numbers of TOML

Integers of 64 bits in four bases, and floats. An underscore may stand between two digits.
-/

namespace RouteHighlight.Toml

open Text Text.Reader

def digitGroup (test : Char → Bool) : Reader (List Char) := do
  let first ← oneOf test
  let others ← many (oneOf test <|> (do char '_'; oneOf test))
  return first :: others

def sign : Reader Bool := do
  match ← peek with
  | some '-' => char '-'; return true
  | some '+' => char '+'; return false
  | _ => return false

def wholeDigits : Reader (List Char) := do
  match ← peek with
  | some '0' => char '0'; return ['0']
  | _ => digitGroup isDigit

def fits (n : Int) : Bool := -9223372036854775808 ≤ n && n < 9223372036854775808

def basedInteger (mark : Char) (base : Nat) (test : Char → Bool) : Reader Int := do
  literal ['0', mark]
  let n : Int := digitsValue base (← digitGroup test)
  if fits n then return n else failure

def decimalInteger : Reader Int := do
  let negative ← sign
  let magnitude : Int := digitsValue 10 (← wholeDigits)
  let n := if negative then -magnitude else magnitude
  if fits n then return n else failure

def integer : Reader Int :=
  basedInteger 'x' 16 isHexDigit <|>
    basedInteger 'o' 8 (fun c => '0' ≤ c && c ≤ '7') <|>
    basedInteger 'b' 2 (fun c => c == '0' || c == '1') <|>
    decimalInteger

def exponent : Reader Int := do
  let _ ← oneOf fun c => c == 'e' || c == 'E'
  let negative ← sign
  let n : Int := digitsValue 10 (← digitGroup isDigit)
  return if negative then -n else n

/-- A float with digits. It must not be too large; a negative one may. -/
def finiteFloat : Reader Float := do
  let negative ← sign
  let whole ← wholeDigits
  let places ← maybe (do char '.'; digitGroup isDigit)
  let power ← maybe exponent
  if places.isNone && power.isNone then failure
  let fraction := places.getD []
  let x := Decimal.toFloat
    ⟨negative, digitsValue 10 (whole ++ fraction), power.getD 0 - fraction.length⟩
  if x == 1 / 0 then failure else return x

def specialFloat : Reader Float := do
  let negative ← sign
  let x ← (do literal ['i', 'n', 'f']; return 1 / 0) <|> (do literal ['n', 'a', 'n']; return 0 / 0)
  return if negative then -x else x

def float : Reader Float := finiteFloat <|> specialFloat

end RouteHighlight.Toml
