import RouteHighlight.Lexer.Rule
import RouteHighlight.Text.Quoted

/-!
# Events

What the library reports about its own work, for a log.
-/

namespace RouteHighlight

inductive Event where
  /-- The lexer went over to another mode; `offset` is the end of the match. -/
  | modeChange (source target : Mode) (offset : Nat)
  | unmatched (mode : Mode) (offset : Nat)
  | registering (name : String) (aliases filenames : List String)
  deriving DecidableEq, Repr

namespace Event

def level : Event → String
  | .modeChange .. | .unmatched .. => "TRACE"
  | .registering .. => "DEBUG"

def message : Event → String
  | .modeChange .. => "routes lexer mode change"
  | .unmatched .. => "unmatched character emitted as text"
  | .registering .. => "registering highlighter"

inductive Field where
  | number (n : Nat)
  | text (s : String)
  deriving DecidableEq, Repr

def fields : Event → List (String × Field)
  | .modeChange source target offset =>
    [("from", .text source.name), ("to", .text target.name), ("offset", .number offset)]
  | .unmatched mode offset => [("mode", .text mode.name), ("offset", .number offset)]
  | .registering name aliases filenames =>
    [("name", .text name), ("aliases", .text (Text.quotedList aliases)),
     ("filenames", .text (Text.quotedList filenames))]

end Event

end RouteHighlight
