import RouteHighlight.Config.Key
import RouteHighlight.Config.Value
import RouteHighlight.Text.Lowercase

/-!
# Setting values

Names are lower-cased wherever they are set. A table is merged into what is there, entry by
entry; any other value takes the place of what is there. A key makes the tables and lists on its
way as they are needed.
-/

namespace RouteHighlight.Config

open Text (lowercase)

def Value.setEntry (target : Value) (name : String) (change : Option Value → Value) : Value :=
  match target with
  | .table origin entries => .table origin (alterEntry (lowercase name) change entries)
  | _ => .table none [(lowercase name, change none)]

mutual

/-- Sets the entry of a name to a value, or merges a table into it. -/
def Value.put (target : Value) (name : String) : Value → Value
  | .table _ entries =>
    target.setEntry name fun present => Value.putAll (present.getD .emptyTable) entries
  | value => target.setEntry name fun _ => value

def Value.putAll (target : Value) : List (String × Value) → Value
  | [] => target
  | (name, value) :: rest => Value.putAll (target.put name value) rest

end

/-- The place of an index in a list of a length. A negative index counts from the end; one that
falls below the start means the start. -/
def place (n : Int) (length : Nat) : Nat :=
  if 0 ≤ n then n.toNat else (length + n).toNat

/-- Changes the item at a place. The list grows with absent values up to it. -/
def alterItem (position : Nat) (change : Value → Value) (items : List Value) : List Value :=
  let grown := items ++ List.replicate (position + 1 - items.length) Value.nil
  grown.modify position change

def Value.setItem (target : Value) (n : Int) (change : Value → Value) : Value :=
  match target with
  | .list origin items => .list origin (alterItem (place n items.length) change items)
  | _ => .list none (alterItem (place n 0) change [])

/-- Sets what the steps lead to. The last step sets the value; those before it find or make the
tables and lists on the way. -/
def Value.setSteps (value : Value) : List Step → Value → Value
  | [], _ => value
  | [.child name], target => target.put name value
  | .child name :: steps, target =>
    target.setEntry name fun present => value.setSteps steps (present.getD .nil)
  | .index n :: steps, target => target.setItem n (value.setSteps steps)

def setKey (key : Key) (value root : Value) : Value :=
  value.setSteps (.child key.head :: key.steps) root

end RouteHighlight.Config
