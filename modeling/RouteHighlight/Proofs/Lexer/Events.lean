import RouteHighlight.Proofs.Lexer.Run

/-!
# What a pass reports

A scan reports a character that no rule matches, and then a change of mode.  Its pieces tell which
(`Reads.scan_events`): the only scans that give a single piece of plain text are those in which no
rule matched.  The events of a pass are those of its calls.
-/

namespace RouteHighlight

open Piece (plain layOut)
open Rule (OpensRoute)
open Text (Stops isBlank isWord)

/-! ## One scan -/

/-- No rule of a mode matches at the start of the text, and it does not begin with the newline that
ends a route. -/
def Unmatched : Mode → List Char → Prop
  | .root, text => Stops isBlank text ∧ text.head? ≠ some '#' ∧ ¬ OpensRoute text
  | .url, text => text.head? = some ':' ∧ Stops isWord text.tail
  | .object, text => Stops isWord text ∧ text.head? ≠ some '\n' ∧ ¬ OpensList text

variable {mode target : Mode} {text rest : List Char} {pieces : List Piece}

theorem Reads.unmatched {chars : List Char}
    (h : Reads mode text [⟨.text, chars⟩] target rest) :
    Unmatched mode text ∧ Rule.first? (Rule.table mode) text = none := by
  cases h with
  | rootOther blank hash opens =>
      exact ⟨⟨by simpa using blank, by simpa using hash, opens⟩,
        Rule.first?_root_eq_none blank hash opens⟩
  | colon stops => exact ⟨⟨rfl, stops⟩, Rule.first?_url_eq_none stops⟩
  | objectOther word newline opens =>
      exact ⟨⟨by simpa using word, by simpa using newline, opens⟩,
        Rule.first?_object_eq_none word opens⟩

namespace Stream

def reportOf (s : Stream) : List Piece → List Event
  | [⟨.text, _⟩] => [.unmatched s.mode s.position]
  | _ => []

def changeTo (s next : Stream) : List Event :=
  if next.mode = s.mode then [] else [.modeChange s.mode next.mode next.position]

theorem skip_events (s : Stream) (c : Char) :
    (s.skip c).2 =
      (if c = '\n' then [] else [.unmatched s.mode s.position]) ++ s.changeTo (s.skip c).1 := by
  unfold skip
  split <;> simp [advance, changeTo]

theorem skip_pending (s : Stream) {c : Char} (hrest : s.rest = c :: rest) :
    (s.skip c).1.pending = s.pending ++
      layOut s.position [⟨if c = '\n' then .whitespace else .text, [c]⟩] := by
  unfold skip
  split <;> simp [advance, hrest, ofExtent_head, Piece.layOut_cons]

theorem reportOf_of_layOut (s : Stream) {piece : Piece}
    (h : layOut s.position pieces = [piece.token s.position]) :
    s.reportOf pieces = if piece.kind = .text then [.unmatched s.mode s.position] else [] := by
  cases pieces with
  | nil => simp at h
  | cons p ps =>
      rw [Piece.layOut_cons] at h
      obtain ⟨htoken, htail⟩ := List.cons.inj h
      obtain rfl : ps = [] := by simpa [← List.length_eq_zero_iff] using htail
      obtain ⟨kind, chars⟩ := p
      obtain rfl : kind = piece.kind := congrArg Token.kind htoken
      unfold reportOf
      split <;> simp_all

end Stream

theorem Reads.scan_events {s : Stream} (h : Reads s.mode s.rest pieces target rest) :
    s.scan.2 = s.reportOf pieces ++ s.changeTo s.scan.1 := by
  have hne : s.rest ≠ [] := by
    rw [h.text_eq]
    simp [h.plain_ne_nil]
  cases hfirst : Rule.first? (Rule.table s.mode) s.rest with
  | some found =>
      obtain ⟨rule, m⟩ := found
      have hreport : s.reportOf pieces = [] := by
        unfold Stream.reportOf
        split
        next chars =>
          rw [h.unmatched.2] at hfirst
          contradiction
        next => rfl
      rw [Stream.scan_eq_accept hne hfirst, hreport]
      rfl
  | none =>
      obtain ⟨c, cs, hcons⟩ := List.exists_cons_of_ne_nil hne
      have hscan := Stream.scan_eq_skip hcons hfirst
      -- the scan gives one token, whose kind says which character it is
      have hpending := congrArg Stream.pending h.scan_eq_after
      rw [hscan, s.skip_pending hcons] at hpending
      have htokens := (List.append_cancel_left hpending).symm
      rw [hscan, s.skip_events c, s.reportOf_of_layOut htokens]
      by_cases hc : c = '\n' <;> simp [hc]

/-! ## Calls -/

namespace Stream

theorem next_events_of_scan {s : Stream} (h : s.pending = []) : s.next.events = s.scan.2 := by
  simp [next, h]

theorem mem_drain_events {s : Stream} {event : Event} :
    event ∈ s.drain.events ↔ ∃ n, event ∈ (s.calls n).2.next.events := by
  induction s using drain.induct with
  | case1 s step hnone =>
      rw [drain_of_none hnone]
      simp [calls_of_none hnone]
  | case2 s step token hsome ih =>
      rw [drain_of_some hsome, List.mem_append, ih]
      constructor
      · rintro (hfirst | ⟨n, hlater⟩)
        · exact ⟨0, hfirst⟩
        · exact ⟨n + 1, by rwa [calls_succ]⟩
      · rintro ⟨n, hevent⟩
        cases n with
        | zero => exact .inl hevent
        | succ n =>
            rw [calls_succ] at hevent
            exact .inr ⟨n, hevent⟩

end Stream

end RouteHighlight
