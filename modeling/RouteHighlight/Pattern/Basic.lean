import RouteHighlight.Text.Blank
import RouteHighlight.Text.Word

/-!
# Patterns

The regular expressions of which lexer rules are made: characters of a class, sequences,
alternatives, runs, numbered groups and the end of a line.
-/

namespace RouteHighlight

open Text (isBlank isWord)

inductive CharClass where
  | blank
  | word
  | dot
  | exactly (c : Char)
  | otherThan (c : Char)
  deriving DecidableEq, Repr

def CharClass.test : CharClass → Char → Bool
  | .blank, c => isBlank c
  | .word, c => isWord c
  | .dot, c => c != '\n'
  | .exactly d, c => c == d
  | .otherThan d, c => c != d

inductive Pattern where
  | empty
  | one (cls : CharClass)
  | seq (p q : Pattern)
  | alt (p q : Pattern)
  /-- One or more characters, as many as possible. -/
  | many (cls : CharClass)
  /-- Any number of characters, as few as possible. -/
  | few (cls : CharClass)
  | group (p : Pattern)
  | lineEnd
  deriving DecidableEq, Repr

namespace Pattern

def sequence : List Pattern → Pattern
  | [] => .empty
  | [p] => p
  | p :: ps => .seq p (sequence ps)

/-- The patterns as alternatives, in order of preference; there must be one at least. -/
def oneOf (p : Pattern) : List Pattern → Pattern
  | [] => p
  | q :: qs => .alt p (oneOf q qs)

def literal (word : String) : Pattern :=
  sequence (word.toList.map fun c => .one (.exactly c))

end Pattern

end RouteHighlight
