import RouteHighlight.Decimal.Basic
import RouteHighlight.Text.Reader

/-!
# Configuration keys

A key is a path into a configuration: a name, and then any number of steps to an entry of a
table (`.name`) or to an item of a list (`[3]`, from the end if negative).
-/

namespace RouteHighlight.Config

open Text

inductive Step where
  | child (name : String)
  | index (n : Int)
  deriving DecidableEq, Repr

structure Key where
  head : String
  steps : List Step
  deriving DecidableEq, Repr

namespace Key

def add (key : Key) (step : Step) : Key := { key with steps := key.steps ++ [step] }

def stepText : Step → String
  | .child name => "." ++ name
  | .index n => "[" ++ String.ofList (Decimal.intText n) ++ "]"

def text (key : Key) : String := key.head ++ String.join (key.steps.map stepText)

end Key

inductive KeyError where
  | name
  /-- A bracket is missing, or an unexpected character follows. -/
  | bracket
  | digits
  | range
  deriving DecidableEq, Repr

def KeyError.message : KeyError → String
  | .name => "IsA"
  | .bracket => "Char"
  | .digits => "Digit"
  | .range => "Map on Result"

namespace Key

def isNameChar (c : Char) : Bool :=
  'a' ≤ c && c ≤ 'z' || 'A' ≤ c && c ≤ 'Z' || '0' ≤ c && c ≤ '9' ||
    c == ' ' || c == '_' || c == '-'

def isPad (c : Char) : Bool := c == ' ' || c == '\t'

/-- The greatest index, in either direction. -/
def maxIndex : Nat := 9223372036854775808

def index (cs : List Char) : Except KeyError (Int × List Char) := do
  let cs := cs.dropWhile isPad
  let (negative, cs) :=
    match cs with
    | '-' :: rest => (true, rest)
    | _ => (false, cs)
  let digits := cs.takeWhile isDigit
  if digits.isEmpty then throw .digits
  let n := digitsValue 10 digits
  if n > maxIndex ∨ n = maxIndex ∧ negative = false then throw .range
  match (cs.dropWhile isDigit).dropWhile isPad with
  | ']' :: rest => return (if negative then -n else n, rest)
  | _ => throw .bracket

def step (cs : List Char) : Except KeyError (Step × List Char) :=
  match cs with
  | '[' :: rest => do
    let (n, rest) ← index rest
    return (.index n, rest)
  | '.' :: rest =>
    let name := rest.takeWhile isNameChar
    if name.isEmpty then throw .bracket
    else return (.child (String.ofList name), rest.dropWhile isNameChar)
  | _ => throw .bracket

/-- The steps of a key. A step takes at least two characters, so that `fuel` for every character
suffices. -/
def stepsWithin (fuel : Nat) (cs : List Char) : Except KeyError (List Step) :=
  match fuel, cs with
  | _, [] => return []
  | 0, _ => throw .bracket
  | fuel + 1, cs => do
    let (first, rest) ← step cs
    return first :: (← stepsWithin fuel rest)

def parse (text : String) : Except KeyError Key := do
  let cs := text.toList
  let name := cs.takeWhile isNameChar
  if name.isEmpty then throw .name
  let rest := cs.dropWhile isNameChar
  return ⟨String.ofList name, ← stepsWithin rest.length rest⟩

end Key

end RouteHighlight.Config
