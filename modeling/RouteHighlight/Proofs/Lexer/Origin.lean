import RouteHighlight.Proofs.Lexer.Run

/-!
# The scan that gives a token

Every token of a pass comes from one scan, and one scan may give several.  `Run.At` is a run seen
from one of its pieces: the scans before, the scan that gives the piece, and the scans behind.
What a token looks like, what stands next to it and what a change of it does to a pass are then
case analyses over that one scan.
-/

namespace RouteHighlight

open Text (IsRun isBlank byteLength)
open Piece (plain layOut)

variable {options : LexerOptions} {mode target final : Mode} {text mid rest : List Char}
  {pieces ps qs : List Piece} {piece : Piece} {chunks : List (List Piece)}

/-- A run between the pieces `ps` before one of its pieces and the pieces `qs` behind it. -/
inductive Run.At (options : LexerOptions) (mode : Mode) (text : List Char) (final : Mode)
    (rest : List Char) : List Piece → Piece → List Piece → Prop where
  | intro {before after : List (List Piece)} {pieces earlier later : List Piece} {piece : Piece}
      {mid target : Mode} {behind : List Char} (pieces_eq : pieces = earlier ++ piece :: later)
      (front : Run options mode text before mid (plain pieces ++ behind))
      (reads : Reads mid (plain pieces ++ behind) pieces target behind)
      (back : Run options (options.landing (plain pieces) target) behind after final rest) :
      At options mode text final rest (before.flatten ++ earlier) piece (later ++ after.flatten)

theorem Run.At.cons (reads : Reads mode text pieces target mid)
    (h : Run.At options (options.landing (plain pieces) target) mid final rest ps piece qs) :
    Run.At options mode text final rest (pieces ++ ps) piece qs := by
  cases h with
  | intro pieces_eq front inner back =>
      have hfront := Run.read reads front
      rw [← List.append_assoc, ← List.flatten_cons]
      exact .intro pieces_eq hfront inner back

theorem Run.at (h : Run options mode text chunks final rest)
    (hsplit : chunks.flatten = ps ++ piece :: qs) :
    Run.At options mode text final rest ps piece qs := by
  induction h generalizing ps with
  | done => simp at hsplit
  | @read mode target final text mid rest pieces chunks reads run ih =>
      rw [List.flatten_cons] at hsplit
      rcases List.append_eq_append_iff.1 hsplit with ⟨more, rfl, hmore⟩ | ⟨more, hpieces, hmore⟩
      · exact (ih hmore).cons reads
      · cases more with
        | nil =>
            rw [List.append_nil] at hpieces
            rw [List.nil_append] at hmore
            have hlater : Run.At options (options.landing (plain pieces) target) mid final rest
                [] piece qs := ih hmore.symm
            have hat := hlater.cons reads
            rwa [List.append_nil, hpieces] at hat
        | cons p later =>
            obtain ⟨rfl, rfl⟩ := List.cons.inj hmore
            have htext := reads.text_eq
            subst htext
            have hfront : Run options mode (plain pieces ++ mid) [] mode (plain pieces ++ mid) :=
              .done
            have hat := Run.At.intro hpieces hfront reads run
            simpa using hat

theorem Run.At.text_eq (h : Run.At options mode text final rest ps piece qs) :
    text = plain ps ++ (piece.text ++ (plain qs ++ rest)) := by
  cases h with
  | intro pieces_eq front reads back =>
      have hback := back.text_eq
      rw [front.text_eq, pieces_eq]
      simp [hback]

/-! ## Short scans -/

section

variable {α : Type} {p q r x : α} {xs ys : List α}

theorem of_singleton_eq (h : [p] = xs ++ x :: ys) : xs = [] ∧ x = p ∧ ys = [] := by
  cases xs with
  | nil => simpa [eq_comm] using h
  | cons y xs => simp at h

theorem of_pair_eq (h : [p, q] = xs ++ x :: ys) :
    (xs = [] ∧ x = p ∧ ys = [q]) ∨ (xs = [p] ∧ x = q ∧ ys = []) := by
  cases xs with
  | nil =>
      left
      simpa [eq_comm] using h
  | cons y xs =>
      obtain ⟨rfl, htail⟩ := List.cons.inj h
      obtain ⟨rfl, rfl, rfl⟩ := of_singleton_eq htail
      exact .inr ⟨rfl, rfl, rfl⟩

theorem of_triple_eq (h : [p, q, r] = xs ++ x :: ys) :
    (xs = [] ∧ x = p ∧ ys = [q, r]) ∨ (xs = [p] ∧ x = q ∧ ys = [r]) ∨
      (xs = [p, q] ∧ x = r ∧ ys = []) := by
  cases xs with
  | nil =>
      left
      simpa [eq_comm] using h
  | cons y xs =>
      obtain ⟨rfl, htail⟩ := List.cons.inj h
      rcases of_pair_eq htail with ⟨rfl, rfl, rfl⟩ | ⟨rfl, rfl, rfl⟩
      · exact .inr (.inl ⟨rfl, rfl, rfl⟩)
      · exact .inr (.inr ⟨rfl, rfl, rfl⟩)

end

theorem Reads.keyword_of_mem (h : Reads mode text pieces target rest) (hmem : piece ∈ pieces)
    (hkind : piece.kind = .keyword) :
    ∃ (k : String) (w : List Char), mode = .root ∧ target = .url ∧ k ∈ Rule.routeKeywords ∧
      pieces = [⟨.keyword, k.toList⟩, ⟨.whitespace, w⟩] ∧ IsRun isBlank w rest ∧ w ≠ [] := by
  cases h with
  | @keyword k w _ mem run ne => exact ⟨k, w, rfl, rfl, mem, rfl, run, ne⟩
  | parameters ne close =>
      simp only [List.mem_cons, List.not_mem_nil, or_false] at hmem
      rcases hmem with rfl | rfl | rfl <;> contradiction
  | _ =>
      rw [List.mem_singleton.1 hmem] at hkind
      contradiction

theorem Reads.comment_of_mem (h : Reads mode text pieces target rest) (hmem : piece ∈ pieces)
    (hkind : piece.kind = .comment) :
    ∃ body, mode = .root ∧ target = .root ∧ pieces = [⟨.comment, '#' :: body⟩] ∧
      IsRun (fun c => c != '\n') body rest := by
  cases h with
  | @comment body _ run => exact ⟨body, rfl, rfl, rfl, run⟩
  | keyword mem run ne =>
      simp only [List.mem_cons, List.not_mem_nil, or_false] at hmem
      rcases hmem with rfl | rfl <;> contradiction
  | parameters ne close =>
      simp only [List.mem_cons, List.not_mem_nil, or_false] at hmem
      rcases hmem with rfl | rfl | rfl <;> contradiction
  | _ =>
      rw [List.mem_singleton.1 hmem] at hkind
      contradiction

/-- A keyword is read in root mode, with the white space behind it. -/
theorem Run.At.keyword_inv (h : Run.At options mode text final rest ps piece qs)
    (hkind : piece.kind = .keyword) :
    ∃ (before after : List (List Piece)) (k : String) (w behind : List Char),
      ps = before.flatten ∧ piece = ⟨.keyword, k.toList⟩ ∧ qs = ⟨.whitespace, w⟩ :: after.flatten ∧
        k ∈ Rule.routeKeywords ∧ IsRun isBlank w behind ∧ w ≠ [] ∧
        Run options mode text before .root (k.toList ++ (w ++ behind)) ∧
        Run options (options.landing (k.toList ++ w) .url) behind after final rest := by
  cases h with
  | @intro before after pieces earlier later _ mid target behind pieces_eq front reads back =>
      obtain ⟨k, w, rfl, rfl, mem, rfl, run, ne⟩ :=
        reads.keyword_of_mem (by simp [pieces_eq]) hkind
      rcases of_pair_eq pieces_eq with ⟨rfl, rfl, rfl⟩ | ⟨rfl, rfl, rfl⟩
      · exact ⟨before, after, k, w, behind, by simp, rfl, rfl, mem, run, ne,
          by simpa using front, by simpa using back⟩
      · contradiction

/-- A comment is read in root mode, up to the end of its line. -/
theorem Run.At.comment_inv (h : Run.At options mode text final rest ps piece qs)
    (hkind : piece.kind = .comment) :
    ∃ (before after : List (List Piece)) (body behind : List Char),
      ps = before.flatten ∧ piece = ⟨.comment, '#' :: body⟩ ∧ qs = after.flatten ∧
        IsRun (fun c => c != '\n') body behind ∧
        Run options mode text before .root ('#' :: (body ++ behind)) ∧
        Run options .root behind after final rest := by
  cases h with
  | @intro before after pieces earlier later _ mid target behind pieces_eq front reads back =>
      obtain ⟨body, rfl, rfl, rfl, run⟩ := reads.comment_of_mem (by simp [pieces_eq]) hkind
      obtain ⟨rfl, rfl, rfl⟩ := of_singleton_eq pieces_eq
      rw [options.landing_root] at back
      exact ⟨before, after, body, behind, by simp, rfl, rfl, run, by simpa using front, back⟩

/-! ## Tokens -/

theorem Piece.layOut_eq_append_cons {base : Nat} {before after : List Token} {token : Token}
    (h : layOut base pieces = before ++ token :: after) :
    ∃ ps piece qs, pieces = ps ++ piece :: qs ∧ before = layOut base ps ∧
      token = piece.token (base + byteLength (plain ps)) ∧
      after = layOut (base + byteLength (plain ps) + byteLength piece.text) qs := by
  induction pieces generalizing base before with
  | nil => simp at h
  | cons p pieces ih =>
      rw [layOut_cons] at h
      cases before with
      | nil =>
          obtain ⟨rfl, rfl⟩ := List.cons.inj h
          exact ⟨[], p, pieces, rfl, rfl, rfl, rfl⟩
      | cons first before =>
          obtain ⟨rfl, htail⟩ := List.cons.inj h
          obtain ⟨ps, piece, qs, rfl, rfl, rfl, rfl⟩ := ih htail
          refine ⟨p :: ps, piece, qs, rfl, rfl, ?_, ?_⟩
          · simp [Nat.add_assoc]
          · simp [Nat.add_assoc]

/-- The piece of a token, and the run of the pass seen from there. -/
theorem Stream.exists_at {source : String} {before after : List Token} {token : Token}
    (h : (start options source).drain.tokens = before ++ token :: after) :
    ∃ ps piece qs, before = layOut 0 ps ∧ token = piece.token (byteLength (plain ps)) ∧
      after = layOut (byteLength (plain ps) + byteLength piece.text) qs ∧
      Run.At options .root source.toList (start options source).drain.stream.mode []
        ps piece qs := by
  obtain ⟨chunks, final, hrun⟩ := exists_run options .root source.toList
  obtain ⟨htokens, hstream⟩ := drain_start hrun
  rw [htokens] at h
  obtain ⟨ps, piece, qs, hsplit, hbefore, htoken, hafter⟩ := Piece.layOut_eq_append_cons h
  rw [Nat.zero_add] at htoken hafter
  rw [hstream]
  exact ⟨ps, piece, qs, hbefore, htoken, hafter, hrun.at hsplit⟩

end RouteHighlight
