import RouteHighlight.Proofs.Lexer.Run

/-!
# The mode at a line

When newlines reset the mode, a stream is in root mode behind each line, whichever rule took the
newline, and white space in front of a line does not lead out of it.
-/

namespace RouteHighlight

open Text (isBlank)
open Piece (plain)

variable {options : LexerOptions} {mode target final : Mode} {text rest : List Char}
  {pieces : List Piece} {chunks : List (List Piece)}

/-- The text is empty or ends with a newline. -/
def EndsLine (text : List Char) : Prop := ∀ c ∈ text.getLast?, c = '\n'

theorem EndsLine.behind {front : List Char} (h : EndsLine (front ++ rest)) : EndsLine rest := by
  intro c hc
  apply h c
  rw [List.getLast?_append]
  simp [Option.mem_def.1 hc]

theorem EndsLine.ne_nil (front : List Char) (h : EndsLine (front ++ rest)) (hne : front ≠ [])
    (hline : '\n' ∉ front) : rest ≠ [] := by
  rintro rfl
  rw [List.append_nil] at h
  have hlast := h (front.getLast hne) (List.getLast?_eq_some_getLast hne)
  exact hline (hlast ▸ List.getLast_mem hne)

theorem EndsLine.mem_newline (h : EndsLine text) (hne : text ≠ []) : '\n' ∈ text := by
  rw [← h (text.getLast hne) (List.getLast?_eq_some_getLast hne)]
  exact List.getLast_mem hne

theorem Reads.target_of_blank (h : Reads .root text pieces target rest)
    (hblank : ∀ c ∈ plain pieces, isBlank c = true) : target = .root := by
  cases h with
  | @keyword k w r mem run ne =>
      obtain ⟨c, cs, hcons⟩ := List.exists_cons_of_ne_nil (Rule.keyword_ne_nil mem)
      have hmem : c ∈ k.toList := by simp [hcons]
      have hkeyword := (Rule.keyword_chars mem c hmem).1
      rw [hblank c (by simp [hmem])] at hkeyword
      contradiction
  | _ => rfl

theorem Run.final_eq_root {line gap : List Char} (hreset : options.resetOnNewline = true)
    (h : Run options mode text chunks final rest) (hplain : plain chunks.flatten = line ++ gap)
    (hends : EndsLine line) (hgap : ∀ c ∈ gap, isBlank c = true)
    (hmode : line = [] → mode = .root) : final = .root := by
  -- `line` is what is still to be read up to the last newline; once it is empty, the mode is root
  induction h generalizing line gap with
  | done =>
      apply hmode
      simp at hplain
      exact hplain.1
  | @read mode target final text mid rest pieces chunks reads run ih =>
      rw [List.flatten_cons, Piece.plain_append] at hplain
      rcases List.append_eq_append_iff.1 hplain with
        ⟨front, hline, htail⟩ | ⟨front, hpieces, hfront⟩
      · rw [hline] at hends
        apply ih htail hends.behind hgap
        rintro rfl
        rw [List.append_nil] at hends
        exact options.landing_of_newline hreset (hends.mem_newline reads.plain_ne_nil)
      · -- the scan reaches into the white space, and what is left is white space only
        have hrest : ∀ c ∈ plain chunks.flatten, isBlank c = true := by
          intro c hc
          exact hgap c (by simp [hfront, hc])
        apply ih (List.nil_append _).symm (by simp [EndsLine]) hrest
        intro _
        by_cases hline : line = []
        · obtain rfl := hmode hline
          rw [hline, List.nil_append] at hpieces
          have htarget := reads.target_of_blank fun c hc => hgap c (by
            rw [hfront, ← hpieces]
            exact List.mem_append_left _ hc)
          rw [htarget, options.landing_root]
        · apply options.landing_of_newline hreset
          rw [hpieces]
          exact List.mem_append_left _ (hends.mem_newline hline)

end RouteHighlight
