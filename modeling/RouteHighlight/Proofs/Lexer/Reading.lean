import RouteHighlight.Proofs.Lexer.Keyword
import RouteHighlight.Proofs.Lexer.Piece

/-!
# What one scan reads

`Reads` says, without patterns and without byte offsets, what a scan takes off the front of a
text: the pieces it gives, and the mode that the table leads to.  In every mode exactly one
constructor applies to a text that is not empty, so a fact about scans is a case analysis over
`Reads`.
-/

namespace RouteHighlight

open Text (IsRun Stops isBlank isWord byteLength)
open Piece (plain layOut)
open Rule (OpensRoute)

/-- A parameter list stands at the start of the text: a parenthesis, at least one character, and
the first closing parenthesis behind it. -/
def OpensList (text : List Char) : Prop :=
  ∃ p rest, p ≠ [] ∧ ')' ∉ p ∧ text = '(' :: (p ++ ')' :: rest)

/-- A scan in a mode takes pieces off the front of a text, leads to a mode, and leaves a rest. -/
inductive Reads : Mode → List Char → List Piece → Mode → List Char → Prop where
  | blank {w r : List Char} (run : IsRun isBlank w r) (ne : w ≠ []) :
      Reads .root (w ++ r) [⟨.whitespace, w⟩] .root r
  | comment {body r : List Char} (run : IsRun (fun c => c != '\n') body r) :
      Reads .root ('#' :: (body ++ r)) [⟨.comment, '#' :: body⟩] .root r
  | keyword {k : String} {w r : List Char} (mem : k ∈ Rule.routeKeywords)
      (run : IsRun isBlank w r) (ne : w ≠ []) :
      Reads .root (k.toList ++ (w ++ r)) [⟨.keyword, k.toList⟩, ⟨.whitespace, w⟩] .url r
  | rootOther {c : Char} {r : List Char} (blank : isBlank c = false) (hash : c ≠ '#')
      (opens : ¬ OpensRoute (c :: r)) : Reads .root (c :: r) [⟨.text, [c]⟩] .root r
  | urlEnd {w r : List Char} (run : IsRun isBlank w r) (ne : w ≠ []) :
      Reads .url (w ++ r) [⟨.whitespace, w⟩] .object r
  | pathChar {c : Char} {r : List Char} (blank : isBlank c = false) (colon : c ≠ ':') :
      Reads .url (c :: r) [⟨.stringLiteral, [c]⟩] .url r
  | pathParam {w r : List Char} (run : IsRun isWord w r) (ne : w ≠ []) :
      Reads .url (':' :: (w ++ r)) [⟨.variable, ':' :: w⟩] .url r
  | colon {r : List Char} (stops : Stops isWord r) : Reads .url (':' :: r) [⟨.text, [':']⟩] .url r
  | segment {w r : List Char} (word : ∀ c ∈ w, isWord c = true) (ne : w ≠ []) :
      Reads .object (w ++ '.' :: r) [⟨.className, w ++ ['.']⟩] .object r
  | method {w r : List Char} (run : IsRun isWord w r) (ne : w ≠ []) (dot : r.head? ≠ some '.') :
      Reads .object (w ++ r) [⟨.functionName, w⟩] .object r
  | parameters {p r : List Char} (ne : p ≠ []) (close : ')' ∉ p) :
      Reads .object ('(' :: (p ++ ')' :: r)) [⟨.text, ['(']⟩, ⟨.variable, p⟩, ⟨.text, [')']⟩]
        .object r
  | newline {r : List Char} : Reads .object ('\n' :: r) [⟨.whitespace, ['\n']⟩] .root r
  | objectOther {c : Char} {r : List Char} (word : isWord c = false) (newline : c ≠ '\n')
      (opens : ¬ OpensList (c :: r)) : Reads .object (c :: r) [⟨.text, [c]⟩] .object r

namespace Reads

variable {mode target : Mode} {text rest : List Char} {pieces : List Piece}

theorem text_eq (h : Reads mode text pieces target rest) : text = plain pieces ++ rest := by
  cases h <;> simp

theorem piece_ne_nil (h : Reads mode text pieces target rest) :
    ∀ piece ∈ pieces, piece.text ≠ [] := by
  cases h with
  | keyword mem run ne => simpa [Rule.keyword_ne_nil mem] using ne
  | _ => simp_all

theorem pieces_ne_nil (h : Reads mode text pieces target rest) : pieces ≠ [] := by
  cases h <;> simp

theorem plain_ne_nil (h : Reads mode text pieces target rest) : plain pieces ≠ [] := by
  cases hpieces : pieces with
  | nil => exact absurd hpieces h.pieces_ne_nil
  | cons p ps =>
      have := h.piece_ne_nil p (by simp [hpieces])
      simp [this]

end Reads

/-! ## Every text is read -/

private theorem exists_reads_root (c : Char) (cs : List Char) :
    ∃ pieces target rest, Reads .root (c :: cs) pieces target rest := by
  by_cases hblank : isBlank c = true
  · obtain ⟨w, r, heq, hne, hrun⟩ := Text.exists_isRun_cons cs hblank
    rw [heq]
    exact ⟨_, _, _, .blank hrun hne⟩
  · by_cases hhash : c = '#'
    · obtain ⟨body, r, rfl, hrun⟩ := Text.exists_isRun (fun c => c != '\n') cs
      rw [hhash]
      exact ⟨_, _, _, .comment hrun⟩
    · by_cases hopens : OpensRoute (c :: cs)
      · obtain ⟨k, hk, d, rest, hd, heq⟩ := hopens
        obtain ⟨w, r, hw, hne, hrun⟩ := Text.exists_isRun_cons rest hd
        rw [heq, hw]
        exact ⟨_, _, _, .keyword hk hrun hne⟩
      · exact ⟨_, _, _, .rootOther (by simpa using hblank) hhash hopens⟩

private theorem exists_reads_url (c : Char) (cs : List Char) :
    ∃ pieces target rest, Reads .url (c :: cs) pieces target rest := by
  by_cases hblank : isBlank c = true
  · obtain ⟨w, r, heq, hne, hrun⟩ := Text.exists_isRun_cons cs hblank
    rw [heq]
    exact ⟨_, _, _, .urlEnd hrun hne⟩
  · by_cases hcolon : c = ':'
    · obtain ⟨w, r, rfl, hrun⟩ := Text.exists_isRun isWord cs
      rw [hcolon]
      by_cases hne : w = []
      · subst hne
        exact ⟨_, _, _, .colon hrun.stops⟩
      · exact ⟨_, _, _, .pathParam hrun hne⟩
    · exact ⟨_, _, _, .pathChar (by simpa using hblank) hcolon⟩

private theorem exists_reads_object (c : Char) (cs : List Char) :
    ∃ pieces target rest, Reads .object (c :: cs) pieces target rest := by
  by_cases hword : isWord c = true
  · obtain ⟨w, r, heq, hne, hrun⟩ := Text.exists_isRun_cons cs hword
    rw [heq]
    by_cases hdot : r.head? = some '.'
    · obtain ⟨r', rfl⟩ := List.head?_eq_some_iff.1 hdot
      exact ⟨_, _, _, .segment hrun.all hne⟩
    · exact ⟨_, _, _, .method hrun hne hdot⟩
  · by_cases hnewline : c = '\n'
    · rw [hnewline]
      exact ⟨_, _, _, .newline⟩
    · by_cases hopens : OpensList (c :: cs)
      · obtain ⟨p, rest, hp, hclose, heq⟩ := hopens
        rw [heq]
        exact ⟨_, _, _, .parameters hp hclose⟩
      · exact ⟨_, _, _, .objectOther (by simpa using hword) hnewline hopens⟩

theorem exists_reads (mode : Mode) {text : List Char} (hne : text ≠ []) :
    ∃ pieces target rest, Reads mode text pieces target rest := by
  cases text with
  | nil => contradiction
  | cons c cs =>
      cases mode with
      | root => exact exists_reads_root c cs
      | url => exact exists_reads_url c cs
      | object => exact exists_reads_object c cs

end RouteHighlight
