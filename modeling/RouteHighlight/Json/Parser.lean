import RouteHighlight.Json.Value
import RouteHighlight.Text.Reader

/-!
# Reading JSON

The grammar of JSON documents. Nesting is limited to `maxDepth` levels. An escaped surrogate
must be one of a pair.
-/

namespace RouteHighlight.Json

open Text Text.Reader

def maxDepth : Nat := 128

def isSpace (c : Char) : Bool := c == ' ' || c == '\t' || c == '\n' || c == '\x0d'

def lexeme {α : Type} (reader : Reader α) : Reader α := do
  let _ ← takeWhile isSpace
  reader

def codeUnit : Reader Nat := do
  match ← oneOf fun c => 0x20 ≤ c.toNat && c != '"' with
  | '\\' =>
    match ← oneOf fun _ => true with
    | '"' => return '"'.toNat
    | '\\' => return '\\'.toNat
    | '/' => return '/'.toNat
    | 'b' => return 0x08
    | 'f' => return 0x0C
    | 'n' => return 0x0A
    | 'r' => return 0x0D
    | 't' => return 0x09
    | 'u' => return digitsValue 16 (← exactly isHexDigit 4)
    | _ => failure
  | c => return c.toNat

/-- The characters that code units stand for. A high and a low surrogate make one character; on
their own they make none. -/
def joinUnits : List Nat → Option (List Char)
  | [] => some []
  | unit :: units =>
    if 0xD800 ≤ unit && unit < 0xDC00 then
      match units with
      | low :: units =>
        if 0xDC00 ≤ low && low < 0xE000 then
          let code := 0x10000 + (unit - 0xD800) * 0x400 + (low - 0xDC00)
          (joinUnits units).map (Char.ofNat code :: ·)
        else none
      | [] => none
    else do
      let c ← charOfCode? unit
      let cs ← joinUnits units
      return c :: cs

def string : Reader String := do
  char '"'
  let units ← many codeUnit
  char '"'
  let cs ← joinUnits units
  return String.ofList cs

def wholeDigits : Reader (List Char) := do
  let digits ← takeWhile1 isDigit
  if digits.head? = some '0' && digits.length > 1 then failure else return digits

def fraction : Reader (List Char) := do
  char '.'
  takeWhile1 isDigit

def sign (plus : Bool) : Reader Bool := do
  match ← peek with
  | some '-' => char '-'; return true
  | some '+' => if plus then char '+'; return false else failure
  | _ => return false

def exponent : Reader Int := do
  let _ ← oneOf fun c => c == 'e' || c == 'E'
  let negative ← sign true
  let digits ← takeWhile1 isDigit
  let n : Int := digitsValue 10 digits
  return if negative then -n else n

/-- A number. Without a fraction and an exponent it is an integer, except for the negative
zero. -/
def number : Reader Value := do
  let negative ← sign false
  let whole ← wholeDigits
  let places ← maybe fraction
  let power ← maybe exponent
  let digits := digitsValue 10 (whole ++ places.getD [])
  match places, power with
  | none, none =>
    if negative && digits = 0 then return .decimal ⟨true, 0, 0⟩
    else return .int (if negative then -digits else digits)
  | _, _ => return .decimal ⟨negative, digits, power.getD 0 - (places.getD []).length⟩

def listOf {α : Type} (opening closing : Char) (item : Reader α) : Reader (List α) := do
  char opening
  let items ← maybe (sepBy1 item (lexeme (char ',')))
  lexeme (char closing)
  return items.getD []

def value : Nat → Reader Value
  | 0 => failure
  | depth + 1 => lexeme do
    match ← peek with
    | some '"' => return .str (← string)
    | some '[' => return .arr (← listOf '[' ']' (value depth))
    | some '\x7b' =>
      let field : Reader (String × Value) := do
        let name ← lexeme string
        lexeme (char ':')
        let content ← value depth
        return (name, content)
      return .obj (← listOf '\x7b' '\x7d' field)
    | some 'n' => literal "null".toList; return .null
    | some 't' => literal "true".toList; return .bool true
    | some 'f' => literal "false".toList; return .bool false
    | _ => number

def parse? (text : String) : Option Value :=
  readAll? (do let v ← value maxDepth; lexeme finish; return v) text.toList

end RouteHighlight.Json
