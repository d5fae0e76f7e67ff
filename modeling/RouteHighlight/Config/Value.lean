/-!
# Configuration values

A configuration is a table of values. Every value remembers the file that it came from, if it
came from one.
-/

namespace RouteHighlight.Config

inductive Scalar where
  | nil
  | bool (b : Bool)
  | int (n : Int)
  | float (x : Float)
  | text (s : String)

/-- A value and its origin. The entries of a table are in no particular order, and a name occurs
once. -/
inductive Value where
  | scalar (origin : Option String) (scalar : Scalar)
  | list (origin : Option String) (items : List Value)
  | table (origin : Option String) (entries : List (String × Value))

namespace Value

def nil : Value := .scalar none .nil

def emptyTable : Value := .table none []

def origin : Value → Option String
  | .scalar origin _ | .list origin _ | .table origin _ => origin

def entries : Value → List (String × Value)
  | .table _ entries => entries
  | _ => []

def items : Value → List Value
  | .list _ items => items
  | _ => []

def entry? (value : Value) (name : String) : Option Value :=
  (value.entries.find? (·.1 == name)).map (·.2)

end Value

/-- The entries with the one of a name changed: `change` is given the entry, if there is one. -/
def alterEntry (name : String) (change : Option Value → Value) :
    List (String × Value) → List (String × Value)
  | [] => [(name, change none)]
  | (other, value) :: rest =>
    if other = name then (other, change (some value)) :: rest
    else (other, value) :: alterEntry name change rest

end RouteHighlight.Config
