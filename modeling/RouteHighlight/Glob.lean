/-!
# File name patterns

A pattern is matched against a whole name, character by character. A star stands for any
characters and a question mark for one, neither for a newline; every other character stands for
itself.
-/

namespace RouteHighlight

inductive Glob.Piece where
  | star
  | any
  | lit (c : Char)
  deriving DecidableEq, Repr

structure Glob where
  pieces : List Glob.Piece
  deriving DecidableEq, Repr

namespace Glob

def Piece.ofChar : Char → Piece
  | '*' => .star
  | '?' => .any
  | c => .lit c

/-- Roughly the bytes that a piece takes in the matcher that is compiled from a pattern. The numbers
are estimates, and what does not grow with the pattern is left out. -/
def Piece.cost : Piece → Nat
  | .star => 1040
  | .any => 1000
  | .lit c => 32 * c.utf8Size

/-- The most bytes that a compiled matcher may take. Set against `cost`, which is no exact size, it
marks patterns far beyond the limit from those far below it, and says little of those near it. -/
def sizeLimit : Nat := 10485760

def cost (glob : Glob) : Nat := glob.pieces.foldr (fun piece n => piece.cost + n) 0

def ofPattern (pattern : String) : Glob := ⟨pattern.toList.map Piece.ofChar⟩

def compile? (pattern : String) : Option Glob :=
  let glob := ofPattern pattern
  if glob.cost ≤ sizeLimit then some glob else none

def emptyRow : List Piece → List Bool
  | [] => [true]
  | piece :: pieces =>
    let row := emptyRow pieces
    (piece == .star && row.headD false) :: row

/-- For each tail of the pieces, longest first, whether it matches the name `c :: cs`, given the
same for `cs`. -/
def nextRow (c : Char) : List Piece → List Bool → List Bool
  | [], _ => [false]
  | piece :: pieces, row =>
    let shorter := nextRow c pieces row.tail
    let here :=
      match piece with
      | .star => shorter.headD false || c != '\n' && row.headD false
      | .any => c != '\n' && row.tail.headD false
      | .lit d => c == d && row.tail.headD false
    here :: shorter

def row (pieces : List Piece) (name : List Char) : List Bool :=
  name.foldr (fun c row => nextRow c pieces row) (emptyRow pieces)

theorem tail_row (piece : Piece) (pieces : List Piece) (name : List Char) :
    (row (piece :: pieces) name).tail = row pieces name := by
  induction name with
  | nil => rfl
  | cons c cs ih => exact congrArg (nextRow c pieces) ih

/-- Whether the pieces match a whole name. There is nothing to choose before the first star. -/
def matchPieces : List Piece → List Char → Bool
  | [], name => name.isEmpty
  | .star :: pieces, name => (row (.star :: pieces) name).headD false
  | .any :: pieces, c :: cs => c != '\n' && matchPieces pieces cs
  | .lit d :: pieces, c :: cs => c == d && matchPieces pieces cs
  | .any :: _, [] | .lit _ :: _, [] => false

theorem matchPieces_eq (pieces : List Piece) (name : List Char) :
    matchPieces pieces name = (row pieces name).headD false := by
  induction pieces generalizing name with
  | nil => cases name <;> rfl
  | cons piece pieces ih =>
    cases name with
    | nil => cases piece <;> rfl
    | cons c cs =>
      cases piece with
      | star => rfl
      | any => rw [matchPieces, ih, ← tail_row .any]; rfl
      | lit d => rw [matchPieces, ih, ← tail_row (.lit d)]; rfl

def isMatch (glob : Glob) (name : String) : Bool := matchPieces glob.pieces name.toList

end Glob

end RouteHighlight
