import RouteHighlight.Lexer.Stream

/-!
# The routes lexer

A lexer for routes files: the options of its passes and the names under which it is registered.
-/

namespace RouteHighlight

structure RoutesLexer where
  name : String
  aliases : List String
  filenames : List String
  options : LexerOptions
  deriving DecidableEq, Repr

namespace RoutesLexer

def withOptions (options : LexerOptions) : RoutesLexer :=
  ⟨"ROUTES", ["routes"], ["routes", "*.routes"], options⟩

def default : RoutesLexer := withOptions .default

def pass (lexer : RoutesLexer) (source : String) : Stream.Pass :=
  (Stream.start lexer.options source).drain

def tokenize (lexer : RoutesLexer) (source : String) : List Token :=
  (lexer.pass source).tokens

end RoutesLexer

def tokenize (source : String) : List Token :=
  (Stream.start .default source).drain.tokens

end RouteHighlight
