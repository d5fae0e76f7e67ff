import RouteHighlight.Text.Span

/-!
# Tokens

A token is a piece of a source with its byte span and its kind. The kinds are those that a
style sheet tells apart.
-/

namespace RouteHighlight

inductive TokenKind where
  | whitespace
  | comment
  /-- A request method or the include arrow. -/
  | keyword
  | stringLiteral
  /-- A path parameter, or the parameter list of a handler. -/
  | variable
  | className
  | functionName
  | text
  deriving DecidableEq, Repr

namespace TokenKind

def all : List TokenKind :=
  [.whitespace, .comment, .keyword, .stringLiteral, .variable, .className, .functionName, .text]

theorem mem_all (kind : TokenKind) : kind ∈ all := by
  cases kind <;> decide

def tag : TokenKind → String
  | .whitespace => "whitespace"
  | .comment => "comment"
  | .keyword => "keyword"
  | .stringLiteral => "string-literal"
  | .variable => "variable"
  | .className => "class"
  | .functionName => "function"
  | .text => "text"

def dottedName : TokenKind → String
  | .whitespace => "Text.Whitespace"
  | .comment => "Comment"
  | .keyword => "Keyword"
  | .stringLiteral => "Literal.String"
  | .variable => "Name.Variable"
  | .className => "Name.Class"
  | .functionName => "Name.Function"
  | .text => "Text"

def cssClass : TokenKind → String
  | .whitespace => "w"
  | .comment => "c"
  | .keyword => "k"
  | .stringLiteral => "s"
  | .variable => "nv"
  | .className => "nc"
  | .functionName => "nf"
  | .text => ""

def ofTag? (name : String) : Option TokenKind :=
  all.find? (·.tag == name)

theorem ofTag?_tag (kind : TokenKind) : ofTag? kind.tag = some kind := by
  cases kind <;> decide

theorem tag_injective {kind other : TokenKind} (h : kind.tag = other.tag) : kind = other := by
  have hsome : some kind = some other := by rw [← ofTag?_tag kind, h, ofTag?_tag]
  exact Option.some.inj hsome

end TokenKind

structure Token where
  kind : TokenKind
  text : String
  span : Text.Span
  deriving DecidableEq, Repr

namespace Token

def isWhitespace (token : Token) : Bool := token.kind == .whitespace

def containsNewline (token : Token) : Bool := token.text.toList.contains '\n'

def detokenize (tokens : List Token) : String :=
  String.join (tokens.map (·.text))

end Token

end RouteHighlight
