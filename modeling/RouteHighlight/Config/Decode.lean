import RouteHighlight.Config.Error
import RouteHighlight.Lexer.Basic
import RouteHighlight.Text.Lowercase

/-!
# Reading a lexer off a configuration

The entry `lexer` of a configuration describes a routes lexer: a table with the four fields, or
a list that gives them in order. Values are converted where they can be.
-/

namespace RouteHighlight

structure LexerConfig where
  name : String
  aliases : List String
  filenames : List String
  resetOnNewline : Bool
  deriving DecidableEq, Repr

def RoutesLexer.ofConfig (config : LexerConfig) : RoutesLexer :=
  ⟨config.name, config.aliases, config.filenames, ⟨config.resetOnNewline⟩⟩

namespace Config

def trueWords : List String := ["1", "true", "on", "yes"]

def falseWords : List String := ["0", "false", "off", "no"]

def decodeText (key : Key) : Value → Except LoadError String
  | .scalar _ (.text s) => .ok s
  | .scalar _ (.bool b) => .ok (if b then "true" else "false")
  | .scalar _ (.int n) => .ok (String.ofList (Decimal.intText n))
  | .scalar _ (.float x) => .ok (floatText x)
  | value => .error (.conversion (.ofValue value) .text key value.origin)

/-- A value as a truth value. A number is true unless it is zero; a text must be a word for yes
or no, in either case. -/
def decodeBool (key : Key) : Value → Except LoadError Bool
  | .scalar _ (.bool b) => .ok b
  | .scalar _ (.int n) => .ok (n != 0)
  | .scalar _ (.float x) => .ok (x != 0)
  | .scalar origin (.text s) =>
    let word := Text.lowercase s
    if trueWords.contains word then .ok true
    else if falseWords.contains word then .ok false
    else .error (.conversion (.text word) .bool key origin)
  | value => .error (.conversion (.ofValue value) .bool key value.origin)

def decodeTexts (key : Key) : Value → Except LoadError (List String)
  | .list _ items =>
    items.zipIdx.mapM fun (item, i) => decodeText (key.add (.index i)) item
  | value => .error (.shape (.ofValue value) .list)

/-- The fields of a lexer. `part` finds a field by its name and position, with the key where it
stands; `absent` is the error for one that is not there. Fields that are there are converted
first. -/
def decodeFields (part : String → Nat → Key × Option Value) (absent : String → LoadError) :
    Except LoadError LexerConfig := do
  let name ← convert decodeText (part "name" 0)
  let aliases ← convert decodeTexts (part "aliases" 1)
  let filenames ← convert decodeTexts (part "filenames" 2)
  let reset ← convert decodeBool (part "reset_on_newline" 3)
  return ⟨← require "name" name, ← require "aliases" aliases, ← require "filenames" filenames,
    ← require "reset_on_newline" reset⟩
where
  convert {α : Type} (decode : Key → Value → Except LoadError α) :
      Key × Option Value → Except LoadError (Option α)
    | (key, some value) => some <$> decode key value
    | (_, none) => .ok none
  require {α : Type} (name : String) : Option α → Except LoadError α
    | some a => .ok a
    | none => .error (absent name)

/-- The lexer that a value describes. Other entries of a table and further items of a list are
of no account. -/
def decodeLexer (key : Key) (value : Value) : Except LoadError LexerConfig :=
  match value with
  | .table .. =>
    decodeFields (fun name _ => (key.add (.child name), value.entry? name)) .missingField
  | .list _ items =>
    decodeFields (fun _ i => (key.add (.index i), items[i]?)) fun _ => .tooShort items.length
  | .scalar .. => .error (.shape (.ofValue value) .lexer)

def decodeRoot (root : Value) : Except LoadError LexerConfig :=
  match root.entry? "lexer" with
  | some value => decodeLexer ⟨"lexer", []⟩ value
  | none => .error (.missingField "lexer")

end Config

end RouteHighlight
