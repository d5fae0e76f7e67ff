import RouteHighlight.Token

/-!
# Tagged lines

One line for each token: its text between an opening and a closing tag of its kind. Line breaks
and tabs in the text are escaped, so that a token stays on its line.
-/

namespace RouteHighlight.Token

def escapeBreak : Char → List Char
  | '\n' => ['\\', 'n']
  | '\t' => ['\\', 't']
  | '\x0d' => ['\\', 'r']
  | c => [c]

def escapedText (token : Token) : List Char := token.text.toList.flatMap escapeBreak

def taggedLine (token : Token) : List Char :=
  let tag := token.kind.tag.toList
  '<' :: tag ++ ['>'] ++ token.escapedText ++ ['<', '/'] ++ tag ++ ['>', '\n']

def tagged (tokens : List Token) : String :=
  String.ofList (tokens.flatMap taggedLine)

end RouteHighlight.Token
