import RouteHighlight.Proofs.Lexer.Run

/-!
# The mode automaton

The modes are the states of an automaton that reads the tokens match by match.  A pass is a run of
it from root mode: cut at its matches, the token list is accepted, and behind each match the
stream is in the state that the automaton has reached there.
-/

namespace RouteHighlight

open Text (byteLength)
open Piece (plain layOut)

/-- The state to which the tokens of one match lead, if they can occur in a state.  A handler's
parenthesis is a match of its own unless it opens a parameter list. -/
def Mode.after? : Mode → List Token → Option Mode
  | .root, [⟨.whitespace, _, _⟩] => some .root
  | .root, [⟨.comment, _, _⟩] => some .root
  | .root, [⟨.text, _, _⟩] => some .root
  | .root, [⟨.keyword, _, _⟩, ⟨.whitespace, _, _⟩] => some .url
  | .url, [⟨.stringLiteral, _, _⟩] => some .url
  | .url, [⟨.variable, _, _⟩] => some .url
  | .url, [⟨.text, ":", _⟩] => some .url
  | .url, [⟨.whitespace, _, _⟩] => some .object
  | .object, [⟨.className, _, _⟩] => some .object
  | .object, [⟨.functionName, _, _⟩] => some .object
  | .object, [⟨.text, _, _⟩] => some .object
  | .object, [⟨.text, "(", _⟩, ⟨.variable, _, _⟩, ⟨.text, ")", _⟩] => some .object
  | .object, [⟨.whitespace, "\n", _⟩] => some .root
  | _, _ => none

/-- The state after a match under the options: when newlines reset the mode, a match that contains
one leads to root mode. -/
def Mode.afterMatch? (options : LexerOptions) (mode : Mode) (tokens : List Token) : Option Mode :=
  if options.resetOnNewline && tokens.any (·.containsNewline) then
    (mode.after? tokens).map fun _ => .root
  else mode.after? tokens

def Mode.afterMatches? (options : LexerOptions) (mode : Mode) (matched : List (List Token)) :
    Option Mode :=
  matched.foldlM (Mode.afterMatch? options) mode

variable {options : LexerOptions} {mode mid target final : Mode} {text rest : List Char}
  {pieces : List Piece} {chunks : List (List Piece)}

/-! ## One match -/

theorem Piece.any_containsNewline_layOut (base : Nat) (pieces : List Piece) :
    (layOut base pieces).any (·.containsNewline) = (plain pieces).contains '\n' := by
  induction pieces generalizing base with
  | nil => rfl
  | cons p ps ih =>
      rw [layOut_cons, List.any_cons, ih, plain_cons]
      simp [Token.containsNewline, token]

theorem Reads.after?_eq (h : Reads mode text pieces target rest) (base : Nat) :
    mode.after? (layOut base pieces) = some target := by
  cases h <;> rfl

theorem Reads.afterMatch?_eq (h : Reads mode text pieces target rest) (base : Nat) :
    mode.afterMatch? options (layOut base pieces) =
      some (options.landing (plain pieces) target) := by
  rw [Mode.afterMatch?, Piece.any_containsNewline_layOut, h.after?_eq, LexerOptions.landing]
  split <;> rfl

/-! ## A run -/

def Piece.layOutAll (base : Nat) : List (List Piece) → List (List Token)
  | [] => []
  | pieces :: chunks => layOut base pieces :: layOutAll (base + byteLength (plain pieces)) chunks

theorem Piece.flatten_layOutAll (base : Nat) (chunks : List (List Piece)) :
    (layOutAll base chunks).flatten = layOut base chunks.flatten := by
  induction chunks generalizing base with
  | nil => rfl
  | cons pieces chunks ih =>
      rw [layOutAll, List.flatten_cons, ih, List.flatten_cons, layOut_append]

theorem Run.afterMatches?_eq (h : Run options mode text chunks final rest) (base : Nat) :
    mode.afterMatches? options (Piece.layOutAll base chunks) = some final := by
  induction h generalizing base with
  | done => rfl
  | read reads _ ih =>
      rw [Piece.layOutAll, Mode.afterMatches?, List.foldlM_cons, reads.afterMatch?_eq]
      exact ih _

theorem Run.take (h : Run options mode text chunks final rest) (n : Nat) :
    ∃ mid behind, Run options mode text (chunks.take n) mid behind := by
  induction h generalizing n with
  | done => exact ⟨_, _, by rw [List.take_nil]; exact .done⟩
  | read reads _ ih =>
      cases n with
      | zero => exact ⟨_, _, .done⟩
      | succ n =>
          obtain ⟨mid, behind, hfront⟩ := ih n
          exact ⟨mid, behind, .read reads hfront⟩

theorem Piece.take_layOutAll (base : Nat) (chunks : List (List Piece)) (n : Nat) :
    (layOutAll base chunks).take n = layOutAll base (chunks.take n) := by
  induction chunks generalizing base n with
  | nil => simp [layOutAll]
  | cons pieces chunks ih =>
      cases n with
      | zero => rfl
      | succ n => rw [layOutAll, List.take_succ_cons, ih, List.take_succ_cons, layOutAll]

/-! ## The modes of a stream -/

namespace Stream

/-- A call leaves the mode as it is, or goes where a match leads. -/
theorem next_stream_cases (s : Stream) :
    s.next.stream.options = s.options ∧
      (s.next.stream.mode = s.mode ∨ ∃ pieces target rest,
        Reads s.mode s.rest pieces target rest ∧
          s.next.stream.mode = s.options.landing (plain pieces) target) := by
  cases hpending : s.pending with
  | cons token tokens =>
      rw [next_of_pending hpending]
      exact ⟨rfl, .inl rfl⟩
  | nil =>
      by_cases hrest : s.rest = []
      · rw [next_of_end hpending hrest]
        exact ⟨rfl, .inl rfl⟩
      · obtain ⟨pieces, target, rest, reads⟩ := exists_reads s.mode hrest
        obtain ⟨token, tokens, hcons⟩ := List.exists_cons_of_ne_nil (pending_scan_ne_nil hrest)
        obtain ⟨-, hstream⟩ := next_of_scan hpending hcons
        rw [hstream, reads.scan_eq_after]
        exact ⟨rfl, .inr ⟨pieces, target, rest, reads, rfl⟩⟩

theorem options_calls (s : Stream) (n : Nat) : (s.calls n).2.options = s.options := by
  induction n with
  | zero => rfl
  | succ n ih => rw [← ih]; exact (next_stream_cases _).1

/-- Modes follow one another in a circle; when newlines reset the mode, there is also a way back
from the path. -/
structure Turns (options : LexerOptions) (mode next : Mode) : Prop where
  not_root_object : ¬ (mode = .root ∧ next = .object)
  not_object_url : ¬ (mode = .object ∧ next = .url)
  not_url_root : options.resetOnNewline = false → ¬ (mode = .url ∧ next = .root)

theorem turns_next (s : Stream) : Turns s.options s.mode s.next.stream.mode := by
  obtain ⟨-, hmode | ⟨pieces, target, rest, reads, hmode⟩⟩ := next_stream_cases s
  · rw [hmode]
    constructor <;> grind
  · rw [hmode, LexerOptions.landing]
    generalize s.mode = mode, s.rest = text at reads
    constructor <;> cases reads <;> grind

/-- A pass is a run of the mode automaton. -/
theorem drain_runs_automaton (options : LexerOptions) (source : String) :
    ∃ matched : List (List Token),
      matched.flatten = (start options source).drain.tokens ∧
      (∀ n, ∃ now, (start options source).calls (matched.take n).flatten.length =
            ((matched.take n).flatten, now) ∧
          now.pending = [] ∧
          Mode.root.afterMatches? options (matched.take n) = some now.mode) ∧
      ∀ n, Turns options ((start options source).calls n).2.mode
        ((start options source).calls (n + 1)).2.mode := by
  obtain ⟨chunks, final, hrun⟩ := exists_run options .root source.toList
  refine ⟨Piece.layOutAll 0 chunks, ?_, ?_, ?_⟩
  · rw [Piece.flatten_layOutAll, (drain_start hrun).1]
  · intro n
    obtain ⟨mid, behind, hfront⟩ := hrun.take n
    have hcalls := calls_of_run hfront 0
    rw [Piece.take_layOutAll, Piece.flatten_layOutAll, Piece.length_layOut]
    exact ⟨_, hcalls, rfl, hfront.afterMatches?_eq 0⟩
  · intro n
    have hturns := turns_next ((start options source).calls n).2
    rwa [options_calls] at hturns

end Stream

end RouteHighlight
