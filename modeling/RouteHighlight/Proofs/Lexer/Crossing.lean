import Mathlib.Data.Nat.Find
import RouteHighlight.Proofs.Lexer.Automaton
import RouteHighlight.Proofs.Lexer.Coverage
import RouteHighlight.Proofs.Lexer.Events

/-!
# Where the option to reset tells

Two passes over one source, of which one goes back to root mode after each match that contains a
newline, are the same pass until a match runs over the end of a line and stays out of root mode.
Only three matches can do so: the white space behind a keyword, the white space behind a path, and
a parameter list.  There the passes part, with the same tokens behind them.
-/

namespace RouteHighlight

open Piece (plain)

namespace Stream

def resetting (s : Stream) : Stream := { s with options := ⟨true⟩ }

/-- The next call has to scan, and the text that the scan takes contains a newline and leads to
url or object mode. -/
def CrossesLine (s : Stream) : Prop :=
  s.pending = [] ∧ (∃ text, s.rest = text ++ s.scan.1.rest ∧ '\n' ∈ text) ∧ s.scan.1.mode ≠ .root

/-- The matches that can run over the end of a line and stay out of root mode: a mode, and the
kinds of the tokens of a match in it. -/
def crossings : List (Mode × List TokenKind) :=
  [(.root, [.keyword, .whitespace]), (.url, [.whitespace]), (.object, [.text, .variable, .text])]

/-- `other` is `s` under the option to reset, at every call and in its whole pass. -/
structure Agrees (s other : Stream) : Prop where
  calls_eq : ∀ n, other.calls n = ((s.calls n).1, (s.calls n).2.resetting)
  drain_eq : other.drain = { s.drain with stream := s.drain.stream.resetting }

variable {s : Stream} {pieces : List Piece} {target : Mode} {rest : List Char} {n : Nat}

/-! ## One scan -/

theorem crossesLine_iff (hpending : s.pending = []) (h : Reads s.mode s.rest pieces target rest) :
    s.CrossesLine ↔ '\n' ∈ plain pieces ∧ s.scan.1.mode ≠ .root := by
  have htext : s.rest = plain pieces ++ s.scan.1.rest := by
    rw [h.scan_eq_after]
    exact h.text_eq
  constructor
  · rintro ⟨-, ⟨text, heq, hmem⟩, hmode⟩
    have hplain := List.append_cancel_right (htext.symm.trans heq)
    exact ⟨hplain ▸ hmem, hmode⟩
  · rintro ⟨hmem, hmode⟩
    exact ⟨hpending, ⟨plain pieces, htext, hmem⟩, hmode⟩

theorem not_crossesLine_of_end (hrest : s.rest = []) : ¬ s.CrossesLine := by
  rintro ⟨-, ⟨text, heq, hmem⟩, -⟩
  rw [hrest] at heq
  rw [(List.append_eq_nil_iff.1 heq.symm).1] at hmem
  contradiction

/-- What the option changes in a scan is the mode behind it, and that only at a crossing. -/
theorem scan_resetting (hoptions : s.options = .default)
    (h : Reads s.mode s.rest pieces target rest) :
    s.resetting.scan.1 = { s.scan.1.resetting with
      mode := if '\n' ∈ plain pieces then .root else s.scan.1.mode } := by
  have hkept := h.scan_eq_after
  have hreset := Reads.scan_eq_after (s := s.resetting) h
  rw [hkept, hreset]
  simp [after, resetting, LexerOptions.landing, LexerOptions.default, hoptions]

theorem scan_resetting_of_not_crossesLine (hoptions : s.options = .default)
    (hpending : s.pending = []) (h : ¬ s.CrossesLine) :
    s.resetting.scan = (s.scan.1.resetting, s.scan.2) := by
  by_cases hrest : s.rest = []
  · rw [scan_eq_self hrest, scan_eq_self (s := s.resetting) hrest]
  · obtain ⟨pieces, target, rest, reads⟩ := exists_reads s.mode hrest
    have hscan : s.resetting.scan.1 = s.scan.1.resetting := by
      rw [scan_resetting hoptions reads]
      split
      next hmem =>
        -- the match contains a newline and is no crossing, so it leads to root mode anyhow
        have hmode : s.scan.1.mode = .root := by
          simpa [crossesLine_iff hpending reads, hmem] using h
        rw [← hmode]
        rfl
      next => rfl
    have hevents : s.resetting.scan.2 = s.scan.2 := by
      rw [Reads.scan_events (s := s.resetting) reads, reads.scan_events, hscan]
      rfl
    exact Prod.ext hscan hevents

theorem crossings_of_reads {mode : Mode} {text : List Char}
    (h : Reads mode text pieces target rest) (hmem : '\n' ∈ plain pieces)
    (htarget : target ≠ .root) :
    (mode, pieces.map (·.kind)) ∈ crossings := by
  cases h with
  | keyword | urlEnd | parameters => simp [crossings]
  | pathChar blank colon =>
      have hnewline := List.mem_singleton.1 (by simpa using hmem)
      simp [← hnewline] at blank
  | pathParam run ne => exact absurd (by simpa using hmem) (Text.newline_notMem_of_isWord run.all)
  | segment word ne => exact absurd (by simpa using hmem) (Text.newline_notMem_of_isWord word)
  | method run ne dot => exact absurd (by simpa using hmem) (Text.newline_notMem_of_isWord run.all)
  | colon stops => simp at hmem
  | objectOther word newline opens => exact absurd (by simpa using hmem) (Ne.symm newline)
  | _ => contradiction

theorem CrossesLine.mem_crossings (hoptions : s.options = .default) (h : s.CrossesLine) :
    (s.mode, s.scan.1.pending.map (·.kind)) ∈ crossings := by
  have hrest : s.rest ≠ [] := fun hrest => not_crossesLine_of_end hrest h
  obtain ⟨pieces, target, rest, reads⟩ := exists_reads s.mode hrest
  obtain ⟨hmem, hmode⟩ := (crossesLine_iff h.1 reads).1 h
  have hkinds : s.scan.1.pending.map (·.kind) = pieces.map (·.kind) := by
    rw [reads.scan_eq_after, after, h.1, List.nil_append, Piece.map_kind_layOut]
  have htarget : target ≠ .root := by
    rw [reads.scan_eq_after, after, hoptions] at hmode
    exact hmode
  rw [hkinds]
  exact crossings_of_reads reads hmem htarget

/-! ## One call -/

@[simp] theorem pop_resetting (s : Stream) : s.resetting.pop = (s.pop.1, s.pop.2.resetting) := by
  unfold pop resetting
  split <;> simp_all

theorem next_resetting_of_not_crossesLine (hoptions : s.options = .default)
    (h : ¬ s.CrossesLine) :
    s.resetting.next = { s.next with stream := s.next.stream.resetting } := by
  cases hpending : s.pending with
  | cons token tokens =>
      rw [next_of_pending hpending, next_of_pending (s := s.resetting) hpending]
      rfl
  | nil =>
      have hscan := scan_resetting_of_not_crossesLine hoptions hpending h
      have hreset : s.resetting.pending = [] := hpending
      simp [next, hpending, hreset, hscan]

theorem next_resetting_of_crossesLine (hoptions : s.options = .default) (h : s.CrossesLine) :
    s.resetting.next.token = s.next.token ∧
      s.resetting.next.stream = { s.next.stream.resetting with mode := .root } ∧
      s.next.stream.mode ≠ .root := by
  have hrest : s.rest ≠ [] := fun hrest => not_crossesLine_of_end hrest h
  obtain ⟨pieces, target, rest, reads⟩ := exists_reads s.mode hrest
  obtain ⟨hmem, hmode⟩ := (crossesLine_iff h.1 reads).1 h
  obtain ⟨token, tokens, hcons⟩ := List.exists_cons_of_ne_nil (pending_scan_ne_nil hrest)
  have hscan := scan_resetting hoptions reads
  rw [if_pos hmem] at hscan
  have hreset : s.resetting.scan.1.pending = token :: tokens := by
    rw [hscan]
    exact hcons
  obtain ⟨htoken, hstream⟩ := next_of_scan h.1 hcons
  obtain ⟨htoken', hstream'⟩ := next_of_scan (s := s.resetting) h.1 hreset
  rw [htoken, htoken', hstream, hstream', hscan]
  exact ⟨rfl, rfl, hmode⟩

/-! ## Calls one by one -/

theorem calls_resetting (hoptions : s.options = .default)
    (h : ∀ m < n, ¬ (s.calls m).2.CrossesLine) :
    s.resetting.calls n = ((s.calls n).1, (s.calls n).2.resetting) := by
  induction n with
  | zero => rfl
  | succ n ih =>
      have hnext := next_resetting_of_not_crossesLine ((options_calls s n).trans hoptions)
        (h n (Nat.lt_succ_self n))
      rw [calls, ih fun m hm => h m (Nat.lt_succ_of_lt hm), calls]
      simp only [hnext]

theorem drain_resetting (hoptions : s.options = .default)
    (h : ∀ n, ¬ (s.calls n).2.CrossesLine) :
    s.resetting.drain = { s.drain with stream := s.drain.stream.resetting } := by
  induction s using drain.induct with
  | case1 s step hnone =>
      have hnext := next_resetting_of_not_crossesLine hoptions (h 0)
      rw [drain_of_none hnone, drain_of_none (s := s.resetting) (by rw [hnext]; exact hnone), hnext]
  | case2 s step token hsome ih =>
      have hnext := next_resetting_of_not_crossesLine hoptions (h 0)
      have htail := ih ((next_stream_cases s).1.trans hoptions) fun n => by
        have hn := h (n + 1)
        rwa [calls_succ] at hn
      rw [drain_of_some hsome, drain_of_some (s := s.resetting) (by rw [hnext]; exact hsome), hnext,
        htail]

theorem agrees_of_not_crossesLine (hoptions : s.options = .default)
    (h : ∀ n, ¬ (s.calls n).2.CrossesLine) : Agrees s s.resetting where
  calls_eq _ := calls_resetting hoptions fun m _ => h m
  drain_eq := drain_resetting hoptions h

theorem calls_resetting_of_crossesLine (hoptions : s.options = .default)
    (hcalls : s.resetting.calls n = ((s.calls n).1, (s.calls n).2.resetting))
    (h : (s.calls n).2.CrossesLine) :
    s.resetting.calls (n + 1) = ((s.calls (n + 1)).1,
        { (s.calls (n + 1)).2.resetting with mode := .root }) ∧
      (s.calls (n + 1)).2.mode ≠ .root := by
  obtain ⟨htoken, hstream, hmode⟩ :=
    next_resetting_of_crossesLine ((options_calls s n).trans hoptions) h
  refine ⟨?_, hmode⟩
  rw [calls, hcalls, calls]
  simp only [htoken, hstream]

theorem newline_mem_of_crossesLine {source : String} {options : LexerOptions}
    (h : ((start options source).calls n).2.CrossesLine) : '\n' ∈ source.toList := by
  obtain ⟨chunks, hrun, -, -⟩ := follows_calls options source n
  obtain ⟨-, ⟨text, heq, hmem⟩, -⟩ := h
  rw [hrun.text_eq, heq]
  simp [hmem]

/-- The pass that resets at newlines is the usual one, or both are the same up to the first match
that crosses the end of a line.  That match gives both the same tokens; behind it the one pass is
in root mode and the other is not. -/
theorem resetting_agrees_to_crossing (source : String) :
    let kept := start .default source
    let reset := start ⟨true⟩ source
    ((∀ n, ¬ (kept.calls n).2.CrossesLine) ∧ Agrees kept reset ∨
      ∃ n, (kept.calls n).2.CrossesLine ∧
        ((kept.calls n).2.mode, (kept.calls n).2.scan.1.pending.map (·.kind)) ∈ crossings ∧
        (∀ m < n, ¬ (kept.calls m).2.CrossesLine) ∧
        (∀ m ≤ n, reset.calls m = ((kept.calls m).1, (kept.calls m).2.resetting)) ∧
        reset.calls (n + 1) = ((kept.calls (n + 1)).1,
          { (kept.calls (n + 1)).2.resetting with mode := .root }) ∧
        (kept.calls (n + 1)).2.mode ≠ .root) ∧
    ('\n' ∉ source.toList → Agrees kept reset) := by
  intro kept reset
  have hoptions : kept.options = .default := rfl
  have hagrees : (∀ n, ¬ (kept.calls n).2.CrossesLine) → Agrees kept reset :=
    agrees_of_not_crossesLine hoptions
  refine ⟨?_, fun hline => hagrees fun n hcrosses => hline (newline_mem_of_crossesLine hcrosses)⟩
  by_cases hnever : ∀ n, ¬ (kept.calls n).2.CrossesLine
  · exact .inl ⟨hnever, hagrees hnever⟩
  · right
    classical
    have hcrosses : ∃ n, (kept.calls n).2.CrossesLine := by simpa using hnever
    obtain ⟨n, hn, hfirst⟩ : ∃ n, (kept.calls n).2.CrossesLine ∧
        ∀ m < n, ¬ (kept.calls m).2.CrossesLine :=
      ⟨Nat.find hcrosses, Nat.find_spec hcrosses, fun m hm => Nat.find_min hcrosses hm⟩
    have hcalls : ∀ m ≤ n, reset.calls m = ((kept.calls m).1, (kept.calls m).2.resetting) :=
      fun m hm => calls_resetting hoptions fun k hk => hfirst k (Nat.lt_of_lt_of_le hk hm)
    have hmatch := hn.mem_crossings ((options_calls kept n).trans hoptions)
    obtain ⟨hparts, hmode⟩ :=
      calls_resetting_of_crossesLine hoptions (hcalls n (Nat.le_refl n)) hn
    exact ⟨n, hn, hmatch, hfirst, hcalls, hparts, hmode⟩

example : ((start .default "GET /a\nPOST /b").calls 4).2.CrossesLine :=
  ⟨by decide +kernel, ⟨['\n'], by decide +kernel, by decide⟩, by decide +kernel⟩

end Stream

end RouteHighlight
