import RouteHighlight.Lexer.Basic

/-!
# Highlighters

A highlighter classifies whole sources and carries the names under which hosts find it.
-/

namespace RouteHighlight

structure Highlighter where
  name : String
  aliases : List String
  filenames : List String
  tokenize : String → List Token

namespace Highlighter

def ofLexer (lexer : RoutesLexer) : Highlighter :=
  ⟨lexer.name, lexer.aliases, lexer.filenames, lexer.tokenize⟩

def plain (name : String) (aliases filenames : List String) : Highlighter :=
  ⟨name, aliases, filenames, fun source =>
    [⟨.text, source, ⟨0, Text.byteLength source.toList⟩⟩]⟩

def routes : Highlighter := ofLexer .default

end Highlighter

end RouteHighlight
