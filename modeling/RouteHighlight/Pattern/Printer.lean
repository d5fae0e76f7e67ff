import RouteHighlight.Pattern.Basic

/-!
# Written patterns

The usual notation of a pattern. A pattern that is tried only at the start of a text is written
inside an anchor; one that speaks of line ends is written under the multi-line flag.
-/

namespace RouteHighlight

def Pattern.operators : List Char := "\\.+*?()|[]\x7b\x7d^$".toList

def CharClass.text : CharClass → String
  | .blank => "\\s"
  | .word => "\\w"
  | .dot => "."
  | .exactly c => if Pattern.operators.contains c then "\\" ++ c.toString else c.toString
  | .otherThan c => "[^" ++ c.toString ++ "]"

namespace Pattern

def text : Pattern → String
  | .empty => ""
  | .one cls => cls.text
  | .seq p q => p.text ++ q.text
  | .alt p q => p.text ++ "|" ++ q.text
  | .many cls => cls.text ++ "+"
  | .few cls => cls.text ++ "*?"
  | .group p => "(" ++ p.text ++ ")"
  | .lineEnd => "$"

def hasLineEnd : Pattern → Bool
  | .seq p q | .alt p q => p.hasLineEnd || q.hasLineEnd
  | .group p => p.hasLineEnd
  | .lineEnd => true
  | _ => false

def anchoredText (p : Pattern) : String :=
  let body := if p.hasLineEnd then "(?m:" ++ p.text ++ ")" else p.text
  "\\A(?:" ++ body ++ ")"

end Pattern

end RouteHighlight
