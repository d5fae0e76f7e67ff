import RouteHighlight.Proofs.Lexer.Automaton
import RouteHighlight.Proofs.Lexer.Coverage
import RouteHighlight.Proofs.Lexer.Events
import RouteHighlight.Proofs.Lexer.Origin

/-!
# What a token of each kind looks like

A token of a pass is a lexeme of its kind: its text, the character behind it and the tokens next
to it are as its kind says.  For a character that no rule matches, the kind alone says little; what
is known of it is that every rule of the mode fails there.
-/

namespace RouteHighlight

open Text (IsRun Stops isBlank isWord byteLength)
open Piece (plain layOut)

/-! ## Lexemes -/

def Token.IsEnclosed (before : List Token) (token : Token) (after : List Token) : Prop :=
  ∃ left ∈ before.getLast?, ∃ right ∈ after.head?,
    left.kind = .text ∧ left.text = "(" ∧ left.span.stop = token.span.start ∧
      right.kind = .text ∧ right.text = ")" ∧ token.span.stop = right.span.start

/-- The token is a parenthesis around a parameter list. -/
def Token.IsParenthesis (before : List Token) (token : Token) (after : List Token) : Prop :=
  (token.text = "(" ∧ ∃ next ∈ after.head?, next.kind = .variable) ∨
    (token.text = ")" ∧ ∃ last ∈ before.getLast?, last.kind = .variable)

/-- What a token of each kind looks like, between other tokens and with `rest` behind it in the
source. -/
def Token.IsLexeme (before : List Token) (token : Token) (after : List Token) (rest : List Char) :
    Prop :=
  let text := token.text.toList
  match token.kind with
  | .whitespace => text ≠ [] ∧ ∀ c ∈ text, isBlank c = true
  | .comment => text.head? = some '#' ∧ '\n' ∉ text ∧ ∀ c ∈ rest.head?, c = '\n'
  | .keyword => token.text ∈ Rule.routeKeywords ∧ ∃ next ∈ after.head?, next.kind = .whitespace
  | .stringLiteral => ∃ c, text = [c] ∧ isBlank c = false ∧ c ≠ ':'
  | .variable =>
    (∃ name, text = ':' :: name ∧ name ≠ [] ∧ IsRun isWord name rest) ∨
      (text ≠ [] ∧ ')' ∉ text ∧ token.IsEnclosed before after)
  | .className => ∃ name, text = name ++ ['.'] ∧ name ≠ [] ∧ ∀ c ∈ name, isWord c = true
  | .functionName => text ≠ [] ∧ IsRun isWord text rest ∧ rest.head? ≠ some '.'
  | .text => ∃ c, text = [c] ∧ c ≠ '\n'

variable {options : LexerOptions} {mode target final : Mode} {text behind : List Char}
  {pieces earlier later ps qs : List Piece} {piece : Piece}

/-! ## The pieces of one scan -/

/-- A piece of a scan is a lexeme, whatever tokens stand around the scan. -/
theorem Reads.isLexeme (h : Reads mode text pieces target behind)
    (hpieces : pieces = earlier ++ piece :: later) (base : Nat) (front back : List Token) :
    Token.IsLexeme (front ++ layOut base earlier)
      (piece.token (base + byteLength (plain earlier)))
      (layOut (base + byteLength (plain earlier) + byteLength piece.text) later ++ back)
      (plain later ++ behind) := by
  cases h with
  | blank run ne =>
      obtain ⟨rfl, rfl, rfl⟩ := of_singleton_eq hpieces
      simpa [Token.IsLexeme, Piece.token] using ⟨ne, run.all⟩
  | comment run =>
      obtain ⟨rfl, rfl, rfl⟩ := of_singleton_eq hpieces
      have hrest : ∀ c ∈ behind.head?, c = '\n' := by simpa [Stops] using run.stops
      simpa [Token.IsLexeme, Piece.token] using
        ⟨Text.newline_notMem_of_inLine run.all, hrest⟩
  | keyword mem run ne =>
      rcases of_pair_eq hpieces with ⟨rfl, rfl, rfl⟩ | ⟨rfl, rfl, rfl⟩
      · simpa [Token.IsLexeme, Piece.token, Piece.layOut_cons] using mem
      · simpa [Token.IsLexeme, Piece.token] using ⟨ne, run.all⟩
  | rootOther blank hash opens =>
      obtain ⟨rfl, rfl, rfl⟩ := of_singleton_eq hpieces
      simp [Token.IsLexeme, Piece.token]
      rintro rfl
      simp at blank
  | urlEnd run ne =>
      obtain ⟨rfl, rfl, rfl⟩ := of_singleton_eq hpieces
      simpa [Token.IsLexeme, Piece.token] using ⟨ne, run.all⟩
  | pathChar blank colon =>
      obtain ⟨rfl, rfl, rfl⟩ := of_singleton_eq hpieces
      simpa [Token.IsLexeme, Piece.token] using ⟨blank, colon⟩
  | pathParam run ne =>
      obtain ⟨rfl, rfl, rfl⟩ := of_singleton_eq hpieces
      left
      simpa [Piece.token] using ⟨ne, run⟩
  | colon stops =>
      obtain ⟨rfl, rfl, rfl⟩ := of_singleton_eq hpieces
      simp [Token.IsLexeme, Piece.token]
  | segment word ne =>
      obtain ⟨rfl, rfl, rfl⟩ := of_singleton_eq hpieces
      simpa [Token.IsLexeme, Piece.token] using ⟨ne, word⟩
  | method run ne dot =>
      obtain ⟨rfl, rfl, rfl⟩ := of_singleton_eq hpieces
      simpa [Token.IsLexeme, Piece.token] using ⟨ne, run, dot⟩
  | parameters ne close =>
      rcases of_triple_eq hpieces with ⟨rfl, rfl, rfl⟩ | ⟨rfl, rfl, rfl⟩ | ⟨rfl, rfl, rfl⟩
      · simp [Token.IsLexeme, Piece.token]
      · right
        simpa [Token.IsEnclosed, Piece.token, Piece.layOut_cons] using ⟨ne, close⟩
      · simp [Token.IsLexeme, Piece.token]
  | newline =>
      obtain ⟨rfl, rfl, rfl⟩ := of_singleton_eq hpieces
      simp [Token.IsLexeme, Piece.token]
  | objectOther word newline opens =>
      obtain ⟨rfl, rfl, rfl⟩ := of_singleton_eq hpieces
      simpa [Token.IsLexeme, Piece.token] using newline

/-- Plain text of a scan is a parenthesis of its parameter list, or all that the scan gives. -/
theorem Reads.isParenthesis_or (h : Reads mode text pieces target behind)
    (hpieces : pieces = earlier ++ piece :: later) (hkind : piece.kind = .text) (base : Nat)
    (front back : List Token) :
    Token.IsParenthesis (front ++ layOut base earlier)
        (piece.token (base + byteLength (plain earlier)))
        (layOut (base + byteLength (plain earlier) + byteLength piece.text) later ++ back) ∨
      earlier = [] ∧ later = [] := by
  cases h with
  | parameters ne close =>
      left
      rcases of_triple_eq hpieces with ⟨rfl, rfl, rfl⟩ | ⟨rfl, rfl, rfl⟩ | ⟨rfl, rfl, rfl⟩
      · left
        simp [Piece.token, Piece.layOut_cons]
      · contradiction
      · right
        simp [Piece.token, Piece.layOut_cons]
  | keyword mem run ne =>
      rcases of_pair_eq hpieces with ⟨rfl, rfl, rfl⟩ | ⟨rfl, rfl, rfl⟩
      · contradiction
      · contradiction
  | _ =>
      right
      obtain ⟨rfl, rfl, rfl⟩ := of_singleton_eq hpieces
      exact ⟨rfl, rfl⟩

/-! ## The tokens of a pass -/

namespace Stream

theorem isLexeme_at {source : List Char}
    (h : Run.At options .root source final [] ps piece qs) :
    Token.IsLexeme (layOut 0 ps) (piece.token (byteLength (plain ps)))
      (layOut (byteLength (plain ps) + byteLength piece.text) qs) (plain qs) := by
  cases h with
  | @intro before after pieces earlier later _ mid target behind pieces_eq front reads back =>
      have hlexeme := reads.isLexeme pieces_eq (byteLength (plain before.flatten))
        (layOut 0 before.flatten)
        (layOut (byteLength (plain before.flatten) + byteLength (plain earlier) +
          byteLength piece.text + byteLength (plain later)) after.flatten)
      have hbehind : behind = plain after.flatten := by simpa using back.text_eq
      rw [hbehind, ← Piece.plain_append] at hlexeme
      simpa [Piece.layOut_append] using hlexeme

theorem reported_at {source : String}
    (h : Run.At options .root source.toList final [] ps piece qs) (hkind : piece.kind = .text) :
    Token.IsParenthesis (layOut 0 ps) (piece.token (byteLength (plain ps)))
        (layOut (byteLength (plain ps) + byteLength piece.text) qs) ∨
      ∃ mode, .unmatched mode (byteLength (plain ps)) ∈ (start options source).drain.events := by
  cases h with
  | @intro before after pieces earlier later _ mid target behind pieces_eq front reads back =>
      have hplace := reads.isParenthesis_or pieces_eq hkind (byteLength (plain before.flatten))
        (layOut 0 before.flatten)
        (layOut (byteLength (plain before.flatten) + byteLength (plain earlier) +
          byteLength piece.text + byteLength (plain later)) after.flatten)
      rcases hplace with hparenthesis | ⟨rfl, rfl⟩
      · left
        simpa [Piece.layOut_append] using hparenthesis
      · right
        -- the scan behind the first calls reports the character
        have hcalls := calls_of_run front 0
        rw [← start_eq_poised, Nat.zero_add] at hcalls
        refine ⟨mid, mem_drain_events.2 ⟨before.flatten.length, ?_⟩⟩
        have hevents := Reads.scan_events
          (s := poised options (byteLength (plain before.flatten)) mid (plain pieces ++ behind))
          reads
        obtain ⟨kind, chars⟩ := piece
        obtain rfl : kind = .text := hkind
        rw [hcalls, next_events_of_scan rfl, hevents, pieces_eq]
        simp [reportOf, poised]

theorem mem_reportOf {s : Stream} {offset : Nat}
    (h : .unmatched mode offset ∈ s.reportOf pieces) :
    (∃ chars, pieces = [⟨.text, chars⟩]) ∧ mode = s.mode ∧ offset = s.position := by
  unfold reportOf at h
  split at h
  next chars =>
    obtain ⟨rfl, rfl⟩ := Event.unmatched.inj (List.mem_singleton.1 h)
    exact ⟨⟨chars, rfl⟩, rfl, rfl⟩
  next => simp at h

theorem reads_of_reported {s : Stream} {offset : Nat}
    (h : .unmatched mode offset ∈ s.next.events) :
    offset = s.position ∧ s.pending = [] ∧ mode = s.mode ∧ ∃ chars target rest,
      Reads s.mode s.rest [⟨.text, chars⟩] target rest := by
  have hpending : s.pending = [] := by
    cases hcons : s.pending with
    | nil => rfl
    | cons token tokens => simp [next_of_pending hcons] at h
  have hrest : s.rest ≠ [] := by
    intro hnil
    simp [next_of_end hpending hnil] at h
  obtain ⟨pieces, target, rest, reads⟩ := exists_reads s.mode hrest
  rw [next_events_of_scan hpending, reads.scan_events, List.mem_append] at h
  have hreport : .unmatched mode offset ∈ s.reportOf pieces := by
    refine h.resolve_right fun hchange => ?_
    unfold changeTo at hchange
    split at hchange <;> simp at hchange
  obtain ⟨⟨chars, rfl⟩, rfl, rfl⟩ := mem_reportOf hreport
  exact ⟨rfl, hpending, rfl, chars, target, rest, reads⟩

theorem unmatched_of_reported {source : String} {offset : Nat}
    (h : .unmatched mode offset ∈ (start options source).drain.events) :
    ∃ token ∈ (start options source).drain.tokens, token.kind = .text ∧
      token.span.start = offset ∧
      ∃ text, Text.dropBytes? offset source.toList = some text ∧ Unmatched mode text := by
  obtain ⟨n, hevent⟩ := mem_drain_events.1 h
  obtain ⟨chunks, hrun, htokens, hposition⟩ := follows_calls options source n
  have hoptions := options_calls (start options source) n
  generalize ((start options source).calls n).2 = now at *
  obtain ⟨rfl, hpending, rfl, chars, target, rest, reads⟩ := reads_of_reported hevent
  obtain ⟨more, final, hmore⟩ :=
    exists_run now.options (now.options.landing (plain [⟨.text, chars⟩]) target) rest
  have hall := hrun.trans (.read reads hmore)
  rw [show now.options = options from hoptions] at hall
  refine ⟨Piece.token ⟨.text, chars⟩ now.position, ?_, rfl, rfl, now.rest, ?_, reads.unmatched.1⟩
  · have hmem := Piece.token_mem_layOut 0 chunks.flatten more.flatten ⟨.text, chars⟩
    rw [(drain_start hall).1, hposition]
    simpa using hmem
  · rw [hrun.text_eq, hposition]
    exact Text.dropBytes?_byteLength _ _

/-- Every token of a pass is a lexeme of its kind; plain text is a parenthesis of a parameter list
or a reported character; and what is reported is plain text that no rule of its mode matches. -/
theorem drain_lexemes (options : LexerOptions) (source : String) :
    let pass := (start options source).drain
    (∀ before token after, pass.tokens = before ++ token :: after →
      (∃ rest, Text.dropBytes? token.span.stop source.toList = some rest ∧
        token.IsLexeme before after rest) ∧
      (token.kind = .text → token.IsParenthesis before after ∨
        ∃ mode, .unmatched mode token.span.start ∈ pass.events)) ∧
    ∀ mode offset, .unmatched mode offset ∈ pass.events →
      ∃ token ∈ pass.tokens, token.kind = .text ∧ token.span.start = offset ∧
        ∃ text, Text.dropBytes? offset source.toList = some text ∧ Unmatched mode text := by
  refine ⟨fun before token after htokens => ?_, fun mode offset => unmatched_of_reported⟩
  obtain ⟨ps, piece, qs, rfl, rfl, rfl, hat⟩ := exists_at htokens
  refine ⟨⟨plain qs, ?_, isLexeme_at hat⟩, reported_at hat⟩
  have htext := hat.text_eq
  rw [List.append_nil, ← List.append_assoc] at htext
  rw [htext, show (piece.token (byteLength (plain ps))).span.stop =
    byteLength (plain ps ++ piece.text) by simp [Piece.token]]
  exact Text.dropBytes?_byteLength _ _

end Stream

end RouteHighlight
