import RouteHighlight.Lexer.Basic
import RouteHighlight.Proofs.Lexer.Scan

/-!
# Runs of scans

A `Run` is a row of scans, each in the mode that the one before it leads to.  Every text has a run
to its end, and the run tells what a stream hands out: its pieces, laid out from the place where
the stream stands (`drain_of_run`).  The queue of pending tokens is dealt with here once and for
all.
-/

namespace RouteHighlight

open Text (byteLength)
open Piece (plain layOut)

/-- Scans of a text that begin in one mode and end in another, before what they leave. -/
inductive Run (options : LexerOptions) :
    Mode → List Char → List (List Piece) → Mode → List Char → Prop where
  | done {mode : Mode} {text : List Char} : Run options mode text [] mode text
  | read {mode target final : Mode} {text mid rest : List Char} {pieces : List Piece}
      {chunks : List (List Piece)} (reads : Reads mode text pieces target mid)
      (run : Run options (options.landing (plain pieces) target) mid chunks final rest) :
      Run options mode text (pieces :: chunks) final rest

namespace Run

variable {options : LexerOptions} {mode mid final : Mode} {text rest last : List Char}
  {chunks more : List (List Piece)}

theorem trans (h : Run options mode text chunks mid rest)
    (h' : Run options mid rest more final last) :
    Run options mode text (chunks ++ more) final last := by
  induction h with
  | done => exact h'
  | read reads _ ih => exact .read reads (ih h')

theorem snoc {pieces : List Piece} {target : Mode} (h : Run options mode text chunks mid rest)
    (reads : Reads mid rest pieces target last) :
    Run options mode text (chunks ++ [pieces]) (options.landing (plain pieces) target) last :=
  h.trans (.read reads .done)

theorem text_eq (h : Run options mode text chunks final rest) :
    text = plain chunks.flatten ++ rest := by
  induction h with
  | done => simp
  | read reads _ ih =>
      rw [reads.text_eq, List.flatten_cons, Piece.plain_append, List.append_assoc, ← ih]

theorem piece_ne_nil (h : Run options mode text chunks final rest) :
    ∀ piece ∈ chunks.flatten, piece.text ≠ [] := by
  induction h with
  | done => simp
  | read reads _ ih =>
      intro piece hmem
      rw [List.flatten_cons] at hmem
      rcases List.mem_append.1 hmem with hmem | hmem
      · exact reads.piece_ne_nil piece hmem
      · exact ih piece hmem

end Run

theorem exists_run (options : LexerOptions) (mode : Mode) (text : List Char) :
    ∃ chunks final, Run options mode text chunks final [] := by
  induction hlength : text.length using Nat.strongRecOn generalizing mode text with
  | ind n ih =>
      by_cases hne : text = []
      · subst hne
        exact ⟨[], mode, .done⟩
      · obtain ⟨pieces, target, rest, reads⟩ := exists_reads mode hne
        have hlt : rest.length < n := by
          have hpos := List.length_pos_iff.2 reads.plain_ne_nil
          rw [← hlength, reads.text_eq, List.length_append]
          omega
        obtain ⟨chunks, final, hrun⟩ := ih _ hlt (options.landing (plain pieces) target) rest rfl
        exact ⟨pieces :: chunks, final, .read reads hrun⟩

namespace Stream

variable {s : Stream} {token : Token} {tokens : List Token}

/-! ## One call -/

theorem next_of_pending (h : s.pending = token :: tokens) :
    s.next = ⟨some token, { s with pending := tokens }, []⟩ := by
  simp [next, pop, h]

theorem next_of_end (hpending : s.pending = []) (hrest : s.rest = []) :
    s.next = ⟨none, s, []⟩ := by
  simp [next, pop, scan_eq_self hrest, hpending]

theorem next_of_scan (hpending : s.pending = []) (h : s.scan.1.pending = token :: tokens) :
    s.next.token = some token ∧ s.next.stream = { s.scan.1 with pending := tokens } := by
  simp [next, pop, hpending, h]

theorem pending_scan_ne_nil (hrest : s.rest ≠ []) : s.scan.1.pending ≠ [] := by
  obtain ⟨pieces, target, rest, reads⟩ := exists_reads s.mode hrest
  have hne : layOut s.position pieces ≠ [] := by
    simpa [← List.length_eq_zero_iff] using reads.pieces_ne_nil
  rw [reads.scan_eq_after]
  simp [after, hne]

/-- A call returns no token only when there is none left. -/
theorem next_token_eq_none_iff : s.next.token = none ↔ s.pending = [] ∧ s.rest = [] := by
  constructor
  · intro hnone
    cases hpending : s.pending with
    | cons token tokens => simp [next_of_pending hpending] at hnone
    | nil =>
        refine ⟨rfl, ?_⟩
        by_cases hrest : s.rest = []
        · exact hrest
        · obtain ⟨token, tokens, hcons⟩ := List.exists_cons_of_ne_nil (pending_scan_ne_nil hrest)
          simp [(next_of_scan hpending hcons).1] at hnone
  · rintro ⟨hpending, hrest⟩
    rw [next_of_end hpending hrest]

theorem next_stream_of_none (h : s.next.token = none) : s.next.stream = s := by
  obtain ⟨hpending, hrest⟩ := next_token_eq_none_iff.1 h
  rw [next_of_end hpending hrest]

/-! ## Calls to the end -/

theorem drain_of_none (h : s.next.token = none) : s.drain = ⟨[], s.next.events, s.next.stream⟩ := by
  rw [drain]
  split
  · rfl
  next hsome => simp [h] at hsome

theorem drain_of_some (h : s.next.token = some token) :
    s.drain = ⟨token :: s.next.stream.drain.tokens, s.next.events ++ s.next.stream.drain.events,
      s.next.stream.drain.stream⟩ := by
  rw [drain]
  split
  next hnone => simp [h] at hnone
  next found hsome =>
    obtain rfl := Option.some.inj (h.symm.trans hsome)
    rfl

theorem drain_of_end (hpending : s.pending = []) (hrest : s.rest = []) : s.drain = ⟨[], [], s⟩ := by
  have hnext := next_of_end hpending hrest
  rw [drain_of_none (by rw [hnext]), hnext]

theorem drain_of_pending (options : LexerOptions) (rest : List Char) (position : Nat)
    (mode : Mode) (tokens : List Token) :
    (Stream.mk options rest position mode tokens).drain.tokens =
        tokens ++ (Stream.mk options rest position mode []).drain.tokens ∧
      (Stream.mk options rest position mode tokens).drain.stream =
        (Stream.mk options rest position mode []).drain.stream := by
  induction tokens with
  | nil => exact ⟨rfl, rfl⟩
  | cons token tokens ih =>
      have hnext := next_of_pending
        (s := ⟨options, rest, position, mode, token :: tokens⟩) rfl
      rw [drain_of_some (by rw [hnext]), hnext]
      exact ⟨by rw [ih.1, List.cons_append], ih.2⟩

/-- A scan before its tokens are asked for, or when the first of them is: it is all the same. -/
theorem drain_scan (hpending : s.pending = []) (hrest : s.rest ≠ []) :
    s.drain.tokens = s.scan.1.drain.tokens ∧ s.drain.stream = s.scan.1.drain.stream := by
  obtain ⟨token, tokens, hcons⟩ := List.exists_cons_of_ne_nil (pending_scan_ne_nil hrest)
  obtain ⟨htoken, hstream⟩ := next_of_scan hpending hcons
  have hscanned := next_of_pending hcons
  rw [drain_of_some htoken, drain_of_some (s := s.scan.1) (by rw [hscanned]), hstream, hscanned]
  exact ⟨rfl, rfl⟩

/-! ## Calls one by one -/

/-- The tokens that the first `n` calls of `next` return, and the stream after them. -/
def calls (s : Stream) : Nat → List Token × Stream
  | 0 => ([], s)
  | n + 1 =>
    let (returned, now) := s.calls n
    (returned ++ now.next.token.toList, now.next.stream)

theorem calls_succ (s : Stream) (n : Nat) :
    s.calls (n + 1) = (s.next.token.toList ++ (s.next.stream.calls n).1,
      (s.next.stream.calls n).2) := by
  induction n with
  | zero => simp [calls]
  | succ n ih =>
      rw [calls, ih]
      simp [calls]

theorem calls_add (s : Stream) (m n : Nat) :
    s.calls (m + n) = ((s.calls m).1 ++ ((s.calls m).2.calls n).1, ((s.calls m).2.calls n).2) := by
  induction n with
  | zero => simp [calls]
  | succ n ih => simp [calls, ih]

theorem calls_of_pending (options : LexerOptions) (rest : List Char) (position : Nat)
    (mode : Mode) (tokens : List Token) :
    (Stream.mk options rest position mode tokens).calls tokens.length =
      (tokens, ⟨options, rest, position, mode, []⟩) := by
  induction tokens with
  | nil => rfl
  | cons token tokens ih =>
      have hnext := next_of_pending
        (s := ⟨options, rest, position, mode, token :: tokens⟩) rfl
      rw [List.length_cons, calls_succ, hnext, ih]
      rfl

theorem calls_of_none {s : Stream} (h : s.next.token = none) (n : Nat) :
    s.calls n = ([], s) := by
  induction n with
  | zero => rfl
  | succ n ih => rw [calls_succ, h, next_stream_of_none h, ih]; rfl

/-- The calls that return a token are those of a pass to the end. -/
theorem calls_drain (s : Stream) :
    s.calls s.drain.tokens.length = (s.drain.tokens, s.drain.stream) := by
  induction s using drain.induct with
  | case1 s step hnone =>
      rw [drain_of_none hnone, next_stream_of_none hnone]
      rfl
  | case2 s step token hsome ih =>
      rw [drain_of_some hsome, List.length_cons, calls_succ, hsome, ih]
      rfl

theorem drain_of_calls {n : Nat} (h : (s.calls n).2.next.token = none) :
    s.drain.tokens = (s.calls n).1 ∧ s.drain.stream = (s.calls n).2 := by
  induction n generalizing s with
  | zero =>
      have hnone : s.next.token = none := h
      rw [drain_of_none hnone, next_stream_of_none hnone]
      exact ⟨rfl, rfl⟩
  | succ n ih =>
      rw [calls_succ] at h ⊢
      cases htoken : s.next.token with
      | none =>
          rw [drain_of_none htoken, next_stream_of_none htoken, calls_of_none htoken]
          exact ⟨rfl, rfl⟩
      | some token =>
          obtain ⟨htokens, hstream⟩ := ih h
          rw [drain_of_some htoken]
          exact ⟨by rw [htokens]; rfl, hstream⟩

variable {options : LexerOptions} {mode mid final : Mode} {text rest : List Char}
  {chunks : List (List Piece)}

/-- The stream that stands at byte `position` before `text`, with nothing pending. -/
def poised (options : LexerOptions) (position : Nat) (mode : Mode) (text : List Char) : Stream :=
  ⟨options, text, position, mode, []⟩

theorem start_eq_poised (options : LexerOptions) (source : String) :
    start options source = poised options 0 .root source.toList := rfl

theorem next_of_reads {piece : Piece} {more : List Piece} {target : Mode}
    (h : Reads mode text (piece :: more) target rest) (position : Nat) :
    (poised options position mode text).next.token = some (piece.token position) ∧
      (poised options position mode text).next.stream =
        ⟨options, rest, position + byteLength (plain (piece :: more)),
          options.landing (plain (piece :: more)) target,
          layOut (position + byteLength piece.text) more⟩ := by
  have hscan := Reads.scan_eq_after (s := poised options position mode text) h
  have hpending : (poised options position mode text).scan.1.pending =
      piece.token position :: layOut (position + byteLength piece.text) more := by
    rw [hscan]
    rfl
  obtain ⟨htoken, hstream⟩ := next_of_scan rfl hpending
  rw [hscan] at hstream
  exact ⟨htoken, hstream⟩

theorem calls_of_reads {pieces : List Piece} {target : Mode}
    (h : Reads mode text pieces target rest) (position : Nat) :
    (poised options position mode text).calls pieces.length =
      (layOut position pieces, poised options (position + byteLength (plain pieces))
        (options.landing (plain pieces) target) rest) := by
  obtain ⟨piece, more, rfl⟩ := List.exists_cons_of_ne_nil h.pieces_ne_nil
  obtain ⟨htoken, hstream⟩ := next_of_reads h position
  have hmore := calls_of_pending options rest (position + byteLength (plain (piece :: more)))
    (options.landing (plain (piece :: more)) target)
    (layOut (position + byteLength piece.text) more)
  rw [Piece.length_layOut] at hmore
  rw [List.length_cons, calls_succ, htoken, hstream, hmore]
  rfl

theorem calls_of_run (h : Run options mode text chunks mid rest) (position : Nat) :
    (poised options position mode text).calls chunks.flatten.length =
      (layOut position chunks.flatten,
        poised options (position + byteLength (plain chunks.flatten)) mid rest) := by
  induction h generalizing position with
  | done => simp [calls]
  | @read mode target final text mid rest pieces chunks reads _ ih =>
      rw [List.flatten_cons, List.length_append, calls_add, calls_of_reads reads, ih,
        Piece.layOut_append, Piece.plain_append, Text.byteLength_append, Nat.add_assoc]

/-- A stream hands out the pieces of a run and goes on behind them. -/
theorem drain_of_run (h : Run options mode text chunks mid rest) (position : Nat) :
    (poised options position mode text).drain.tokens =
        layOut position chunks.flatten ++
          (poised options (position + byteLength (plain chunks.flatten)) mid rest).drain.tokens ∧
      (poised options position mode text).drain.stream =
        (poised options (position + byteLength (plain chunks.flatten)) mid rest).drain.stream := by
  induction h generalizing position with
  | done => simp
  | @read mode target final text mid rest pieces chunks reads _ ih =>
      have hscan : (poised options position mode text).scan.1 =
          ⟨options, mid, position + byteLength (plain pieces),
            options.landing (plain pieces) target, layOut position pieces⟩ :=
        Reads.scan_eq_after (s := poised options position mode text) reads
      have hrest : (poised options position mode text).rest ≠ [] := by
        rw [show (poised options position mode text).rest = text from rfl, reads.text_eq]
        simp [reads.plain_ne_nil]
      obtain ⟨htokens, hstream⟩ := drain_scan rfl hrest
      obtain ⟨hpending, hafter⟩ := drain_of_pending options mid
        (position + byteLength (plain pieces)) (options.landing (plain pieces) target)
        (layOut position pieces)
      obtain ⟨ihtokens, ihstream⟩ := ih (position + byteLength (plain pieces))
      rw [List.flatten_cons, Piece.plain_append, Text.byteLength_append, Piece.layOut_append,
        List.append_assoc, ← Nat.add_assoc]
      constructor
      · rw [htokens, hscan, hpending, ← ihtokens]
        rfl
      · rw [hstream, hscan, hafter, ← ihstream]
        rfl

theorem drain_start {source : String} (h : Run options .root source.toList chunks final []) :
    (start options source).drain.tokens = layOut 0 chunks.flatten ∧
      (start options source).drain.stream =
        poised options (byteLength source.toList) final [] := by
  obtain ⟨htokens, hstream⟩ := drain_of_run h 0
  have hend := drain_of_end (s := poised options (0 + byteLength (plain chunks.flatten)) final [])
    rfl rfl
  have htext : plain chunks.flatten = source.toList := by simpa using h.text_eq.symm
  rw [hend, htext] at htokens hstream
  rw [start_eq_poised]
  exact ⟨by simpa using htokens, by simpa using hstream⟩

end Stream

end RouteHighlight
