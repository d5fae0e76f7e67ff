import RouteHighlight.Pattern.Match
import RouteHighlight.Token

/-!
# Lexer rules

The lexer is always in one of three modes. Every mode has a table of rules, tried in order: a
rule says what to match, which tokens a match gives, and in which mode to go on.
-/

namespace RouteHighlight

inductive Mode where
  | root
  | url
  | object
  deriving DecidableEq, Repr

def Mode.name : Mode → String
  | .root => "root"
  | .url => "url"
  | .object => "object"

inductive Action where
  | single (kind : TokenKind)
  /-- Each group is a token of the kind in its place; empty groups are left out. -/
  | byGroups (kinds : List TokenKind)
  deriving DecidableEq, Repr

inductive Transition where
  | stay
  | enter (mode : Mode)
  deriving DecidableEq, Repr

def Transition.target : Transition → Mode → Mode
  | .stay, current => current
  | .enter mode, _ => mode

structure Rule where
  name : String
  pattern : Pattern
  action : Action
  transition : Transition
  deriving DecidableEq, Repr

def Token.ofExtent (kind : TokenKind) (base : Nat) (text : List Char) (extent : Extent) : Token :=
  ⟨kind, String.ofList (extent.of text), extent.span base text⟩

def Action.tokens (action : Action) (base : Nat) (text : List Char) (m : Match) : List Token :=
  match action with
  | .single kind => [Token.ofExtent kind base text m.whole]
  | .byGroups kinds =>
    (kinds.zip m.groups).filterMap fun (kind, extent) =>
      if extent.start < extent.stop then some (Token.ofExtent kind base text extent) else none

namespace Rule

def routeKeywords : List String := ["GET", "POST", "PATCH", "DELETE", "PUT", "OPTIONS", "->"]

def keywordPattern : Pattern :=
  match routeKeywords.map Pattern.literal with
  | [] => .empty
  | p :: ps => .oneOf p ps

/-- The rules between routes. A comment ends before the newline, which is then white space. -/
def rootTable : List Rule :=
  [⟨"whitespace", .many .blank, .single .whitespace, .stay⟩,
   ⟨"comment", .sequence [.one (.exactly '#'), .few .dot, .lineEnd], .single .comment, .stay⟩,
   ⟨"route_keyword", .sequence [.group keywordPattern, .group (.many .blank)],
    .byGroups [.keyword, .whitespace], .enter .url⟩]

/-- The rules of the path. White space comes first, since it is also a character other than a
colon. -/
def urlTable : List Rule :=
  [⟨"url_end", .many .blank, .single .whitespace, .enter .object⟩,
   ⟨"path_char", .one (.otherThan ':'), .single .stringLiteral, .stay⟩,
   ⟨"path_param", .sequence [.one (.exactly ':'), .many .word], .single .variable, .stay⟩]

def objectTable : List Rule :=
  [⟨"namespace_segment", .sequence [.many .word, .one (.exactly '.')], .single .className, .stay⟩,
   ⟨"method_name", .many .word, .single .functionName, .stay⟩,
   ⟨"parameter_list",
    .sequence [.group (.one (.exactly '(')), .group (.many (.otherThan ')')),
      .group (.one (.exactly ')'))],
    .byGroups [.text, .variable, .text], .stay⟩]

def table : Mode → List Rule
  | .root => rootTable
  | .url => urlTable
  | .object => objectTable

/-- The match of a rule at the start of a text; an empty match counts as none. -/
def match? (rule : Rule) (text : List Char) : Option Match :=
  (rule.pattern.match? text).filter (0 < ·.size)

def first? (rules : List Rule) (text : List Char) : Option (Rule × Match) :=
  rules.findSome? fun rule => (rule.match? text).map (rule, ·)

end Rule

end RouteHighlight
