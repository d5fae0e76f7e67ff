import RouteHighlight.Lexer.Event

/-!
# Token streams

A stream walks over a source once, from front to back. It scans one match at a time and hands
out its tokens one by one. Where no rule matches, a single character becomes a token, so that
the tokens cover the source; each scan takes at least one character (`length_rest_scan_lt`),
hence a stream comes to its end.
-/

namespace RouteHighlight

structure LexerOptions where
  /-- Go back to root mode after every match that contains a newline. -/
  resetOnNewline : Bool
  deriving DecidableEq, Repr

def LexerOptions.default : LexerOptions := ⟨false⟩

/-- A pass over a source: the source from `position` on, the mode of the next scan, and the
tokens that were scanned and not yet handed out. -/
structure Stream where
  options : LexerOptions
  rest : List Char
  position : Nat
  mode : Mode
  pending : List Token
  deriving DecidableEq, Repr

namespace Stream

def start (options : LexerOptions) (source : String) : Stream :=
  ⟨options, source.toList, 0, .root, []⟩

/-- The stream after `size` more characters, with their tokens and the mode that they lead to,
and the event of a change of mode. -/
def advance (s : Stream) (size : Nat) (tokens : List Token) (mode : Mode) :
    Stream × List Event :=
  let position := s.position + Text.byteLength (s.rest.take size)
  let events := if mode = s.mode then [] else [.modeChange s.mode mode position]
  (⟨s.options, s.rest.drop size, position, mode, s.pending ++ tokens⟩, events)

def modeAfter (s : Stream) (rule : Rule) (size : Nat) : Mode :=
  if s.options.resetOnNewline && (s.rest.take size).contains '\n' then .root
  else rule.transition.target s.mode

def accept (s : Stream) (rule : Rule) (m : Match) : Stream × List Event :=
  s.advance m.size (rule.action.tokens s.position s.rest m) (s.modeAfter rule m.size)

/-- Takes a character that no rule matches. A newline is white space and leads back to root
mode; any other character is plain text. -/
def skip (s : Stream) (c : Char) : Stream × List Event :=
  let token (kind : TokenKind) := Token.ofExtent kind s.position s.rest ⟨0, 1⟩
  if c = '\n' then s.advance 1 [token .whitespace] .root
  else
    let (next, events) := s.advance 1 [token .text] s.mode
    (next, .unmatched s.mode s.position :: events)

def scan (s : Stream) : Stream × List Event :=
  match s.rest with
  | [] => (s, [])
  | c :: _ =>
    match Rule.first? (Rule.table s.mode) s.rest with
    | some (rule, m) => s.accept rule m
    | none => s.skip c

structure Step where
  token : Option Token
  stream : Stream
  events : List Event
  deriving DecidableEq, Repr

def pop (s : Stream) : Option Token × Stream :=
  match s.pending with
  | [] => (none, s)
  | token :: pending => (some token, { s with pending })

/-- Asks for a token. Only when none is pending does the stream scan on. -/
def next (s : Stream) : Step :=
  if s.pending.isEmpty then
    let (scanned, events) := s.scan
    ⟨scanned.pop.1, scanned.pop.2, events⟩
  else ⟨s.pop.1, s.pop.2, []⟩

theorem size_pos_of_first? {rules : List Rule} {text : List Char} {rule : Rule} {m : Match}
    (h : Rule.first? rules text = some (rule, m)) : 0 < m.size := by
  obtain ⟨candidate, -, h⟩ := List.exists_of_findSome?_eq_some h
  obtain ⟨found, hfound, heq⟩ := Option.map_eq_some_iff.1 h
  cases heq
  simpa using (Option.filter_eq_some_iff.1 hfound).2

theorem length_rest_scan_lt {s : Stream} (h : s.rest ≠ []) :
    s.scan.1.rest.length < s.rest.length := by
  unfold scan
  split
  · contradiction
  next c cs hrest =>
    have hlen : 0 < s.rest.length := by simp [hrest]
    split
    next rule m hfirst =>
      have := size_pos_of_first? hfirst
      simp only [accept, advance, List.length_drop]
      omega
    next =>
      simp only [skip, advance]
      split <;> simp only [List.length_drop] <;> omega

theorem scan_eq_self {s : Stream} (h : s.rest = []) : s.scan = (s, []) := by
  simp [scan, h]

theorem next_decreases {s : Stream} {token : Token} (h : s.next.token = some token) :
    s.next.stream.rest.length < s.rest.length ∨
      s.next.stream.rest = s.rest ∧ s.next.stream.pending.length < s.pending.length := by
  have rest_pop (t : Stream) : t.pop.2.rest = t.rest := by
    unfold pop; split <;> rfl
  unfold next at h ⊢
  split
  next hpending =>
    by_cases hrest : s.rest = []
    · simp_all [scan_eq_self, pop]
    · left
      simpa [rest_pop] using length_rest_scan_lt hrest
  next hpending =>
    right
    refine ⟨rest_pop s, ?_⟩
    unfold pop
    split
    · simp_all
    next hcons => simp [hcons]

structure Pass where
  tokens : List Token
  events : List Event
  stream : Stream
  deriving DecidableEq, Repr

def drain (s : Stream) : Pass :=
  let step := s.next
  match _h : step.token with
  | none => ⟨[], step.events, step.stream⟩
  | some token =>
    let pass := step.stream.drain
    ⟨token :: pass.tokens, step.events ++ pass.events, pass.stream⟩
termination_by (s.rest.length, s.pending.length)
decreasing_by
  rcases next_decreases _h with hlt | ⟨heq, hlt⟩
  · exact .left _ _ hlt
  · exact heq ▸ .right _ hlt

end Stream

end RouteHighlight
