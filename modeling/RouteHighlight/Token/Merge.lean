import RouteHighlight.Token

/-!
# Merging tokens

Neighbouring tokens of one kind whose spans touch are merged into one, whose text is the slice
of the source at the joint span.
-/

namespace RouteHighlight.Token

open Text (Place takeBytes?)

def continues (last next : Token) : Bool :=
  last.kind == next.kind && last.span.stop == next.span.start

def end? {source : List Char} (start here : Place source) (token : Token) :
    Option (Place source) :=
  if start.offset ≤ token.span.stop then here.seek? token.span.stop else none

/-- The token for a run of tokens, each of which continues the one before. A token alone stays
as it is; otherwise the source must have a slice from the start of the run to the end of each
token that joins it. -/
def join? (source : List Char) : List Token → Option Token
  | [] => none
  | [token] => some token
  | first :: rest => do
    let start ← (Place.start source).seek? first.span.start
    let stop ← rest.foldlM (end? start) start
    let text ← takeBytes? (stop.offset - start.offset) start.rest
    return ⟨first.kind, String.ofList text, ⟨start.offset, stop.offset⟩⟩

/-- Merges runs of tokens of one kind whose spans touch. There is no result if the source lacks
a slice for one of them. -/
def coalesce? (source : String) (tokens : List Token) : Option (List Token) :=
  let chars := source.toList
  (tokens.splitBy continues).mapM (join? chars)

end RouteHighlight.Token
