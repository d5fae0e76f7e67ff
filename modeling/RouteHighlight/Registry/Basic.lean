import RouteHighlight.Decimal.Basic
import RouteHighlight.Glob
import RouteHighlight.Path
import RouteHighlight.Registry.Highlighter
import Std.Data.TreeMap

/-!
# Registries

Hosts look up highlighters by alias or by file name. An alias belongs to the highlighter that
was registered under it last; of the file name patterns, the first that matches decides.
-/

namespace RouteHighlight

inductive LexError where
  | lexerNotFound (aliasName : String)
  | noLexerForFilename (path : String)
  | invalidPattern (detail : String)
  deriving DecidableEq, Repr

namespace LexError

def message : LexError → String
  | .lexerNotFound aliasName => "Lexer '" ++ aliasName ++ "' not found"
  | .noLexerForFilename path => "No lexer for filename '" ++ path ++ "'"
  | .invalidPattern detail => "Invalid filename pattern: " ++ detail

def tooLarge (pattern : String) : LexError :=
  .invalidPattern (pattern ++ ": Compiled regex exceeds size limit of " ++
    String.ofList (Decimal.digitsText Glob.sizeLimit) ++ " bytes.")

end LexError

structure Registry where
  byAlias : Std.TreeMap String Highlighter
  byFilename : List (Glob × Highlighter)

namespace Registry

def empty : Registry := ⟨∅, []⟩

def get? (registry : Registry) (aliasName : String) : Option Highlighter :=
  registry.byAlias.get? aliasName

def has (registry : Registry) (aliasName : String) : Bool :=
  registry.byAlias.contains aliasName

def available (registry : Registry) : List String := registry.byAlias.keys

/-- The highlighter that claims a file: the first whose pattern matches its base name. -/
def forFilename? (registry : Registry) (path : String) : Option Highlighter :=
  let name := Path.baseName path
  (registry.byFilename.find? fun (glob, _) => glob.isMatch name).map (·.2)

def tokenize (registry : Registry) (aliasName source : String) : Except LexError (List Token) :=
  match registry.get? aliasName with
  | some highlighter => .ok (highlighter.tokenize source)
  | none => .error (.lexerNotFound aliasName)

def tokenizeFile (registry : Registry) (path source : String) : Except LexError (List Token) :=
  match registry.forFilename? path with
  | some highlighter => .ok (highlighter.tokenize source)
  | none => .error (.noLexerForFilename path)

/-- Enters a highlighter under its aliases, and under the given patterns behind all others. -/
def insert (registry : Registry) (highlighter : Highlighter) (globs : List Glob) : Registry :=
  ⟨highlighter.aliases.foldl (fun byAlias aliasName => byAlias.insert aliasName highlighter)
      registry.byAlias,
    registry.byFilename ++ globs.map (·, highlighter)⟩

def summary (registry : Registry) : String :=
  "LexerRegistry \x7b aliases: " ++ Text.quotedList registry.available ++
    ", filename_patterns: " ++
    String.ofList (Decimal.digitsText registry.byFilename.length) ++ " \x7d"

end Registry

end RouteHighlight
