import RouteHighlight.Token
import RouteHighlight.Json.Printer

/-!
# Tokens as a JSON document

An array with an object for each token: its kind, its text and its span.
-/

namespace RouteHighlight.Token

def toJson (token : Token) : Json.Value :=
  .obj [("kind", .str token.kind.tag), ("text", .str token.text),
    ("span", .obj [("start", .int token.span.start), ("end", .int token.span.stop)])]

def document (tokens : List Token) : String :=
  (Json.Value.arr (tokens.map toJson)).pretty

end RouteHighlight.Token
