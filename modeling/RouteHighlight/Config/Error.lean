import RouteHighlight.Config.Key
import RouteHighlight.Config.Value
import RouteHighlight.Decimal.Shortest
import RouteHighlight.Text.Quoted

/-!
# Configuration errors

Why a configuration could not be built, and the messages that say so.
-/

namespace RouteHighlight.Config

/-- A value as messages describe it. -/
inductive Found where
  | nil
  | list
  | table
  | bool (b : Bool)
  | int (n : Int)
  | float (x : Float)
  | text (s : String)

def Found.ofValue : Value → Found
  | .scalar _ .nil => .nil
  | .scalar _ (.bool b) => .bool b
  | .scalar _ (.int n) => .int n
  | .scalar _ (.float x) => .float x
  | .scalar _ (.text s) => .text s
  | .list .. => .list
  | .table .. => .table

/-- A float inside a message: a whole number shows a decimal place. -/
def pointedFloatText (x : Float) : String :=
  let text := floatText x
  match FloatReading.ofFloat x with
  | .finite .. => if text.toList.contains '.' then text else text ++ ".0"
  | _ => text

def Found.message : Found → String
  | .nil => "unit value"
  | .list => "sequence"
  | .table => "map"
  | .bool b => "boolean `" ++ (if b then "true" else "false") ++ "`"
  | .int n => "integer `" ++ String.ofList (Decimal.intText n) ++ "`"
  | .float x => "floating point `" ++ pointedFloatText x ++ "`"
  | .text s => "string " ++ Text.quoted s

/-- What a place of the configuration calls for. -/
inductive Wanted where
  | text
  | bool
  | list
  | lexer

def Wanted.message : Wanted → String
  | .text => "a string"
  | .bool => "a boolean"
  | .list => "a sequence"
  | .lexer => "struct LexerConfig"

inductive LoadError where
  | conversion (found : Found) (wanted : Wanted) (key : Key) (origin : Option String)
  | shape (found : Found) (wanted : Wanted)
  | tooShort (length : Nat)
  | missingField (name : String)
  | missingFile (path : String)
  | malformedFile (uri : String)
  /-- An index asks for a list that no memory holds. -/
  | tooLong

def LoadError.message : LoadError → String
  | .conversion found wanted key origin =>
    "invalid type: " ++ found.message ++ ", expected " ++ wanted.message ++ " for key `" ++
      key.text ++ "`" ++ (origin.map (" in " ++ ·)).getD ""
  | .shape found wanted => "invalid type: " ++ found.message ++ ", expected " ++ wanted.message
  | .tooShort length =>
    "invalid length " ++ String.ofList (Decimal.digitsText length) ++
      ", expected struct LexerConfig with 4 elements"
  | .missingField name => "missing field `" ++ name ++ "`"
  | .missingFile path => "configuration file \"" ++ path ++ "\" not found"
  | .malformedFile uri => "configuration file \"" ++ uri ++ "\" is malformed"
  | .tooLong => "index out of memory"

end RouteHighlight.Config
