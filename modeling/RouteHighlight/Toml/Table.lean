import RouteHighlight.Toml.DateTime

/-!
# Tables of TOML

A document fills its tables statement by statement. Each table remembers what brought it about,
since that decides what may still be added to it.
-/

namespace RouteHighlight.Toml

inductive Value where
  | text (s : String)
  | int (n : Int)
  | float (x : Float)
  | bool (b : Bool)
  | dateTime (d : DateTime)
  | array (items : List Value)
  | table (entries : List (String × Value))

inductive Cause where
  | header
  | implied
  | dotted
  deriving DecidableEq, Repr

inductive Entry where
  | value (value : Value)
  | table (cause : Cause) (entries : List (String × Entry))
  /-- The tables under one repeated header; only the last may still grow. -/
  | tables (closed : List (List (String × Entry))) (last : List (String × Entry))

abbrev Entries := List (String × Entry)

def Entries.alter? (name : String) (change : Option Entry → Option Entry) :
    Entries → Option Entries
  | [] => (change none).map fun entry => [(name, entry)]
  | (other, entry) :: rest =>
    if other = name then (change (some entry)).map fun entry => (other, entry) :: rest
    else (Entries.alter? name change rest).map ((other, entry) :: ·)

/-- Adds a value under a dotted key, which leads through the tables of `path`. It makes the
tables that it needs, and adds to no others than such; it may pass through tables that headers
implied. -/
def Entries.assign? (name : String) (value : Value) : List String → Entries → Option Entries
  | [], entries =>
    entries.alter? name fun
      | none => some (.value value)
      | some _ => none
  | step :: path, entries =>
    entries.alter? step fun
      | none => (Entries.assign? name value path []).map (.table .dotted)
      | some (.table .dotted inner) => (Entries.assign? name value path inner).map (.table .dotted)
      | some (.table .implied inner) =>
        if path.isEmpty then none
        else (Entries.assign? name value path inner).map (.table .implied)
      | some (.tables closed last) =>
        if path.isEmpty then none
        else (Entries.assign? name value path last).map (.tables closed)
      | some (.table .header _) | some (.value _) => none

/-- Changes the table that a header's path leads to. Tables on the way that are not there are
implied; of repeated tables the last is meant. -/
def Entries.descend? (change : Entries → Option Entries) : List String → Entries → Option Entries
  | [], entries => change entries
  | step :: path, entries =>
    entries.alter? step fun
      | none => (Entries.descend? change path []).map (.table .implied)
      | some (.table cause inner) => (Entries.descend? change path inner).map (.table cause)
      | some (.tables closed last) => (Entries.descend? change path last).map (.tables closed)
      | some (.value _) => none

/-- Adds the table under a header, filled by `fill`. One that was only implied so far goes on
with what it has, behind all that its surroundings hold. -/
def Entries.openTable? (name : String) (fill : Entries → Option Entries) (entries : Entries) :
    Option Entries :=
  match entries.find? (·.1 == name) with
  | none => (fill []).map fun filled => entries ++ [(name, .table .header filled)]
  | some (_, .table .implied inner) =>
    (fill inner).map fun filled =>
      entries.filter (·.1 != name) ++ [(name, .table .header filled)]
  | some _ => none

def Entries.appendTable? (name : String) (fill : Entries → Option Entries) (entries : Entries) :
    Option Entries :=
  entries.alter? name fun
    | none => (fill []).map (.tables [])
    | some (.tables closed last) => (fill []).map (.tables (closed ++ [last]))
    | some _ => none

mutual

def Entry.close : Entry → Value
  | .value v => v
  | .table _ entries => .table (Entry.closeAll entries)
  | .tables closed last => .array (Entry.closeTables closed ++ [.table (Entry.closeAll last)])

def Entry.closeAll : List (String × Entry) → List (String × Value)
  | [] => []
  | (name, entry) :: rest => (name, entry.close) :: Entry.closeAll rest

def Entry.closeTables : List (List (String × Entry)) → List Value
  | [] => []
  | entries :: rest => .table (Entry.closeAll entries) :: Entry.closeTables rest

end

end RouteHighlight.Toml
