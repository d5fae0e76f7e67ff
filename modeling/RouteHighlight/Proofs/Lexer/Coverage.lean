import RouteHighlight.Proofs.Lexer.Run

/-!
# Coverage

The tokens of a stream tile its source.  At every moment of a pass the tokens that were handed
out, followed by those that are pending, stand one behind the other from the first byte to the
position of the stream; the stream is at its end exactly when they reach the end of the source.
-/

namespace RouteHighlight

open Text (byteLength)
open Piece (plain layOut)

/-- A token with the text that stands at its span, which begins and ends between characters. -/
structure Token.IsSlice (source : String) (token : Token) : Prop where
  ne_empty : token.text ≠ ""
  slice : token.span.slice? source = some token.text
  start_valid : (String.Pos.Raw.mk token.span.start).IsValid source
  stop_valid : (String.Pos.Raw.mk token.span.stop).IsValid source

/-- The tokens stand one behind the other from byte `start` to byte `stop` of a source. -/
def Token.Tiles (source : String) (start : Nat) : List Token → Nat → Prop
  | [], stop => start = stop
  | token :: tokens, stop =>
    token.span.start = start ∧ token.IsSlice source ∧ Tiles source token.span.stop tokens stop

theorem Piece.tiles_layOut {source : String} (before rest : List Char) {pieces : List Piece}
    (hsource : source.toList = before ++ (plain pieces ++ rest))
    (hne : ∀ piece ∈ pieces, piece.text ≠ []) :
    Token.Tiles source (byteLength before) (layOut (byteLength before) pieces)
      (byteLength before + byteLength (plain pieces)) := by
  induction pieces generalizing before with
  | nil => simp [Token.Tiles]
  | cons p ps ih =>
      rw [plain_cons, List.append_assoc] at hsource
      have hbehind : source.toList = (before ++ p.text) ++ (plain ps ++ rest) := by
        rw [hsource, List.append_assoc]
      have htail := ih (before ++ p.text) hbehind fun piece hmem => hne piece (by simp [hmem])
      have hstop := Text.isValid_of_append hbehind
      rw [Text.byteLength_append] at htail hstop
      rw [layOut_cons, plain_cons, Text.byteLength_append, ← Nat.add_assoc]
      refine ⟨rfl, ⟨?_, Text.slice?_of_append _ _ _ hsource, Text.isValid_of_append hsource, hstop⟩,
        htail⟩
      simpa [token] using hne p (by simp)

namespace Stream

/-! ## The invariant of a pass -/

def Follows (source : String) (returned : List Token) (now : Stream) : Prop :=
  ∃ chunks, Run now.options .root source.toList chunks now.mode now.rest ∧
    returned ++ now.pending = layOut 0 chunks.flatten ∧
    now.position = byteLength (plain chunks.flatten)

theorem follows_start (options : LexerOptions) (source : String) :
    Follows source [] (start options source) :=
  ⟨[], .done, rfl, rfl⟩

/-- The step: a call either takes a pending token, or scans and takes the first token of the
scan, or finds the end. -/
theorem Follows.next {source : String} {returned : List Token} {now : Stream}
    (h : Follows source returned now) :
    Follows source (returned ++ now.next.token.toList) now.next.stream := by
  obtain ⟨chunks, hrun, htokens, hposition⟩ := h
  cases hpending : now.pending with
  | cons token tokens =>
      rw [next_of_pending hpending]
      exact ⟨chunks, hrun, by simpa [hpending] using htokens, hposition⟩
  | nil =>
      by_cases hrest : now.rest = []
      · rw [next_of_end hpending hrest]
        exact ⟨chunks, hrun, by simpa using htokens, hposition⟩
      · obtain ⟨pieces, target, rest, reads⟩ := exists_reads now.mode hrest
        obtain ⟨token, tokens, hcons⟩ := List.exists_cons_of_ne_nil (pending_scan_ne_nil hrest)
        obtain ⟨htoken, hstream⟩ := next_of_scan hpending hcons
        rw [htoken, hstream]
        rw [reads.scan_eq_after] at hcons ⊢
        simp only [after, hpending, List.nil_append] at hcons
        refine ⟨chunks ++ [pieces], hrun.snoc reads, ?_, ?_⟩
        · rw [hpending, List.append_nil] at htokens
          rw [List.flatten_append, Piece.layOut_append, ← htokens, Nat.zero_add, ← hposition]
          simp [hcons]
        · simp [after, hposition]

/-! ## Coverage at every moment -/

/-- The tokens `returned` so far and those pending tile the source up to the stream's position;
a call fails to return a token exactly at the end of the source, and then forever; and the slices
that the scans take, from the position on, exist. -/
structure Covers (source : String) (returned : List Token) (now : Stream) : Prop where
  tiles : Token.Tiles source 0 (returned ++ now.pending) now.position
  position_le : now.position ≤ source.utf8ByteSize
  ended_iff : now.next.token = none ↔ now.pending = [] ∧ now.position = source.utf8ByteSize
  fused : now.next.token = none → ∀ n, now.calls n = ([], now)
  rest_slice : (Text.Span.mk now.position source.utf8ByteSize).slice? source =
    some (String.ofList now.rest)
  scan_slice : ∃ text, (Text.Span.mk now.position now.scan.1.position).slice? source = some text

theorem Follows.covers {source : String} {returned : List Token} {now : Stream}
    (h : Follows source returned now) : Covers source returned now := by
  obtain ⟨chunks, hrun, htokens, hposition⟩ := h
  have htext : source.toList = plain chunks.flatten ++ now.rest := hrun.text_eq
  have hsize : source.utf8ByteSize = now.position + byteLength now.rest := by
    rw [← Text.byteLength_toList, htext, Text.byteLength_append, hposition]
  have htiles := Piece.tiles_layOut [] now.rest (by simpa using htext) hrun.piece_ne_nil
  have hend : now.position = source.utf8ByteSize ↔ now.rest = [] := by
    rw [hsize, ← Text.byteLength_eq_zero_iff]
    omega
  refine ⟨?_, by omega, ?_, calls_of_none, ?_, ?_⟩
  · rw [htokens, hposition]
    simpa using htiles
  · rw [next_token_eq_none_iff, hend]
  · rw [hsize, hposition]
    exact Text.slice?_of_append _ now.rest [] (by simpa using htext)
  · by_cases hrest : now.rest = []
    · rw [scan_eq_self hrest, hposition]
      exact ⟨_, Text.slice?_of_append _ [] now.rest (by simpa using htext)⟩
    · obtain ⟨pieces, target, rest, reads⟩ := exists_reads now.mode hrest
      rw [reads.scan_eq_after, after, hposition]
      exact ⟨_, Text.slice?_of_append _ _ _ (by rw [htext, reads.text_eq])⟩

theorem follows_calls (options : LexerOptions) (source : String) (n : Nat) :
    Follows source ((start options source).calls n).1 ((start options source).calls n).2 := by
  induction n with
  | zero => exact follows_start options source
  | succ n ih => exact ih.next

theorem length_le_plain {pieces : List Piece} (hne : ∀ piece ∈ pieces, piece.text ≠ []) :
    pieces.length ≤ (plain pieces).length := by
  induction pieces with
  | nil => simp
  | cons p ps ih =>
      have hp := List.length_pos_iff.2 (hne p (by simp))
      have hps := ih fun piece hmem => hne piece (by simp [hmem])
      rw [Piece.plain_cons, List.length_append, List.length_cons]
      omega

/-- Coverage holds after any number of calls, and a pass to the end takes at most as many tokens
as the source has characters, which tile the whole source and give it back. -/
theorem calls_cover (options : LexerOptions) (source : String) :
    let pass := (start options source).drain
    (∀ n, Covers source ((start options source).calls n).1 ((start options source).calls n).2) ∧
      (start options source).calls pass.tokens.length = (pass.tokens, pass.stream) ∧
      pass.stream.next.token = none ∧
      pass.tokens.length ≤ source.length ∧
      Token.Tiles source 0 pass.tokens source.utf8ByteSize ∧
      Token.detokenize pass.tokens = source := by
  refine ⟨fun n => (follows_calls options source n).covers, calls_drain _, ?_⟩
  obtain ⟨chunks, final, hrun⟩ := exists_run options .root source.toList
  obtain ⟨htokens, hstream⟩ := drain_start hrun
  have htext : plain chunks.flatten = source.toList := by simpa using hrun.text_eq.symm
  have htiles := Piece.tiles_layOut [] [] (by simpa using htext.symm)
    hrun.piece_ne_nil
  rw [htokens, hstream]
  refine ⟨?_, ?_, ?_, ?_⟩
  · rw [next_of_end rfl rfl]
  · rw [Piece.length_layOut, ← String.length_toList, ← htext]
    exact length_le_plain hrun.piece_ne_nil
  · simpa [htext, Text.byteLength_toList] using htiles
  · rw [Piece.detokenize_layOut, htext, String.ofList_toList]

end Stream

end RouteHighlight
