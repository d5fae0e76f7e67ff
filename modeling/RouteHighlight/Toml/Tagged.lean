import RouteHighlight.Toml.Table

/-!
# Tagged tables of TOML

A table may stand for a date and time: its first entry then has a name that is reserved for this,
and the text of the date and time.
-/

namespace RouteHighlight.Toml

def dateTimeTag : String := "$__toml_private_datetime"

def Value.tagged? : Value → Option Value
  | .text s => (DateTime.parse? s).map .dateTime
  | _ => none

mutual

/-- A value with the tagged tables replaced by what they stand for. Only the first entry of a
tagged table counts. -/
def Value.resolve? : Value → Option Value
  | .array items => (Value.resolveItems? items).map .array
  | .table entries =>
    match entries.head? with
    | some (name, value) =>
      if name = dateTimeTag then value.tagged?
      else (Value.resolveEntries? entries).map .table
    | none => some (.table [])
  | value => some value

def Value.resolveItems? : List Value → Option (List Value)
  | [] => some []
  | item :: items => do
    let item ← item.resolve?
    return item :: (← Value.resolveItems? items)

def Value.resolveEntries? : List (String × Value) → Option (List (String × Value))
  | [] => some []
  | (name, value) :: entries => do
    let value ← value.resolve?
    return (name, value) :: (← Value.resolveEntries? entries)

end

end RouteHighlight.Toml
