import RouteHighlight.Decimal.Basic

/-!
# JSON values

Objects keep their fields in order. An integer and a number with a fraction or an exponent are
different values.
-/

namespace RouteHighlight.Json

inductive Value where
  | null
  | bool (b : Bool)
  | int (n : Int)
  /-- A number written with a fraction or an exponent, and the negative zero. -/
  | decimal (d : Decimal)
  | str (s : String)
  | arr (items : List Value)
  | obj (fields : List (String × Value))

namespace Value

def field? (name : String) : Value → Option Value
  | .obj fields => (fields.find? (·.1 == name)).map (·.2)
  | _ => none

end Value

end RouteHighlight.Json
