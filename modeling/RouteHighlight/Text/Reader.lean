/-!
# Readers

A reader takes characters off the front of an input and gives a value, or refuses. The grammars
of the library are written with the readers of this module. An input knows how many characters
it has, so that progress is seen without counting.
-/

namespace RouteHighlight.Text

structure Input where
  chars : List Char
  size : Nat
  size_eq : size = chars.length

namespace Input

def ofList (cs : List Char) : Input := ⟨cs, cs.length, rfl⟩

@[simp] theorem chars_ofList (cs : List Char) : (ofList cs).chars = cs := rfl

theorem eq_ofList (input : Input) : input = ofList input.chars := by
  obtain ⟨cs, _, rfl⟩ := input
  rfl

def next? : Input → Option (Char × Input)
  | ⟨[], _, _⟩ => none
  | ⟨c :: cs, size, h⟩ => some (c, ⟨cs, size - 1, by simp [h]⟩)

@[simp] theorem next?_ofList_nil : (ofList []).next? = none := rfl

@[simp] theorem next?_ofList_cons (c : Char) (cs : List Char) :
    (ofList (c :: cs)).next? = some (c, ofList cs) := rfl

private theorem length_dropWhile (test : Char → Bool) (cs : List Char) :
    (cs.dropWhile test).length = cs.length - (cs.takeWhile test).length := by
  have := congrArg List.length (@List.takeWhile_append_dropWhile _ test cs)
  simp only [List.length_append] at this
  omega

def span (test : Char → Bool) : Input → List Char × Input
  | ⟨cs, size, h⟩ =>
    let front := cs.takeWhile test
    (front, ⟨cs.dropWhile test, size - front.length, h ▸ (length_dropWhile test cs).symm⟩)

@[simp] theorem span_ofList (test : Char → Bool) (cs : List Char) :
    (ofList cs).span test = (cs.takeWhile test, ofList (cs.dropWhile test)) := by
  have h := eq_ofList ((ofList cs).span test).2
  exact Prod.ext rfl h

end Input

/-- A reader of values of type `α`: from an input, the value and the rest of the input. -/
abbrev Reader (α : Type) := StateT Input Option α

namespace Reader

variable {α β : Type}

def readAll? (reader : Reader α) (cs : List Char) : Option α :=
  match reader.run (.ofList cs) with
  | some (a, rest) => if rest.chars.isEmpty then some a else none
  | none => none

def oneOf (test : Char → Bool) : Reader Char := fun input =>
  match input.next? with
  | some (c, rest) => if test c then some (c, rest) else none
  | none => none

def char (c : Char) : Reader Unit := do
  let _ ← oneOf (· == c)

def literal (text : List Char) : Reader Unit := text.forM char

def takeWhile (test : Char → Bool) : Reader (List Char) := fun input => some (input.span test)

def takeWhile1 (test : Char → Bool) : Reader (List Char) := do
  let cs ← takeWhile test
  if cs.isEmpty then failure else return cs

def maybe (reader : Reader α) : Reader (Option α) := fun input =>
  match reader.run input with
  | some (a, rest) => some (some a, rest)
  | none => some (none, input)

def peek : Reader (Option Char) := fun input => some (input.chars.head?, input)

def finish : Reader Unit := fun input => if input.chars.isEmpty then some ((), input) else none

/-- Values until the reader refuses or takes no character. -/
def many (reader : Reader α) : Reader (List α) := fun input =>
  match reader.run input with
  | none => some ([], input)
  | some (a, rest) =>
    if rest.size < input.size then
      (many reader rest).map fun (as, rest') => (a :: as, rest')
    else some ([], input)
termination_by input => input.size

def sepBy1 (reader : Reader α) (separator : Reader β) : Reader (List α) := do
  let first ← reader
  let others ← many (do let _ ← separator; reader)
  return first :: others

def exactly (test : Char → Bool) : Nat → Reader (List Char)
  | 0 => return []
  | n + 1 => do
    let c ← oneOf test
    let cs ← exactly test n
    return c :: cs

end Reader

def isDigit (c : Char) : Bool := '0' ≤ c && c ≤ '9'

def isHexDigit (c : Char) : Bool :=
  isDigit c || 'a' ≤ c && c ≤ 'f' || 'A' ≤ c && c ≤ 'F'

def digitValue (c : Char) : Nat :=
  if isDigit c then c.toNat - '0'.toNat
  else if 'a' ≤ c then c.toNat - 'a'.toNat + 10
  else c.toNat - 'A'.toNat + 10

def digitsValue (base : Nat) (digits : List Char) : Nat :=
  digits.foldl (fun n c => n * base + digitValue c) 0

def charOfCode? (n : Nat) : Option Char :=
  if n.isValidChar then some (Char.ofNat n) else none

end RouteHighlight.Text
