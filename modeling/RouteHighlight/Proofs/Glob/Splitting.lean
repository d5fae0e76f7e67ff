import Mathlib.Data.List.Forall2
import RouteHighlight.Proofs.Glob.Matching

/-!
# How a pattern splits a name

A pattern matches a name exactly if the name can be cut into parts, one for each character of the
pattern and in the same order, such that every character takes its part.  Several stars leave many
ways to cut; the rows in which a match is computed look at all of them at once.
-/

namespace RouteHighlight.Glob

/-- The parts of a name that a character of a pattern takes. -/
def Takes : Char → List Char → Prop
  | '*', part => '\n' ∉ part
  | '?', part => ∃ c, c ≠ '\n' ∧ part = [c]
  | c, part => part = [c]

def Piece.Takes : Piece → List Char → Prop
  | .star, part => '\n' ∉ part
  | .any, part => ∃ c, c ≠ '\n' ∧ part = [c]
  | .lit c, part => part = [c]

theorem Piece.takes_ofChar (c : Char) : (ofChar c).Takes = Glob.Takes c := by
  funext part
  unfold ofChar
  split
  · rfl
  · rfl
  next hstar hany =>
    rw [Glob.Takes]
    · rfl
    · exact hstar
    · exact hany

theorem exists_front_of_matchPieces_star {pieces : List Piece} {name : List Char}
    (h : matchPieces (.star :: pieces) name = true) :
    ∃ front back, name = front ++ back ∧ '\n' ∉ front ∧ matchPieces pieces back = true := by
  induction name with
  | nil =>
      rw [matchPieces_star_nil] at h
      exact ⟨[], [], rfl, by simp, h⟩
  | cons c cs ih =>
      rw [matchPieces_star_cons, Bool.or_eq_true, Bool.and_eq_true] at h
      -- the star ends here, or takes one character more
      rcases h with h | ⟨hc, h⟩
      · exact ⟨[], c :: cs, rfl, by simp, h⟩
      · obtain ⟨front, back, rfl, hfront, hback⟩ := ih h
        refine ⟨c :: front, back, rfl, ?_, hback⟩
        rw [List.mem_cons, not_or]
        exact ⟨Ne.symm (bne_iff_ne.1 hc), hfront⟩

theorem matchPieces_cons_iff (piece : Piece) (pieces : List Piece) (name : List Char) :
    matchPieces (piece :: pieces) name = true ↔
      ∃ front back, name = front ++ back ∧ piece.Takes front ∧
        matchPieces pieces back = true := by
  cases piece with
  | star =>
      constructor
      · exact exists_front_of_matchPieces_star
      · rintro ⟨front, back, rfl, hfront, hback⟩
        exact matchPieces_star_append hfront hback
  | any =>
      constructor
      · intro h
        cases name with
        | nil => simp [matchPieces] at h
        | cons c cs =>
            simp only [matchPieces, Bool.and_eq_true, bne_iff_ne] at h
            exact ⟨[c], cs, rfl, ⟨c, h.1, rfl⟩, h.2⟩
      · rintro ⟨_, back, rfl, ⟨c, hc, rfl⟩, hback⟩
        simp [matchPieces, hc, hback]
  | lit d =>
      constructor
      · intro h
        cases name with
        | nil => simp [matchPieces] at h
        | cons c cs =>
            simp only [matchPieces, Bool.and_eq_true, beq_iff_eq] at h
            obtain ⟨rfl, hback⟩ := h
            exact ⟨[c], cs, rfl, rfl, hback⟩
      · rintro ⟨_, back, rfl, rfl, hback⟩
        simp [matchPieces, hback]

theorem matchPieces_iff_splits (pieces : List Piece) (name : List Char) :
    matchPieces pieces name = true ↔
      ∃ parts : List (List Char), parts.flatten = name ∧
        List.Forall₂ Piece.Takes pieces parts := by
  induction pieces generalizing name with
  | nil =>
      rw [matchPieces, List.isEmpty_iff]
      constructor
      · rintro rfl
        exact ⟨[], rfl, .nil⟩
      · rintro ⟨parts, rfl, hparts⟩
        cases hparts
        rfl
  | cons piece pieces ih =>
      rw [matchPieces_cons_iff]
      constructor
      · rintro ⟨front, back, rfl, hfront, hback⟩
        obtain ⟨parts, rfl, hparts⟩ := (ih back).1 hback
        exact ⟨front :: parts, rfl, .cons hfront hparts⟩
      · rintro ⟨_, rfl, hparts⟩
        cases hparts with
        | @cons _ front _ parts hfront hparts =>
            exact ⟨front, parts.flatten, rfl, hfront, (ih _).2 ⟨parts, rfl, hparts⟩⟩

/-- A pattern that compiles matches a name exactly if the name splits into parts that the
characters of the pattern take one after another. -/
theorem isMatch_iff_splits {pattern : String} {glob : Glob} (h : compile? pattern = some glob)
    (name : String) :
    glob.isMatch name = true ↔
      ∃ parts : List (List Char), parts.flatten = name.toList ∧
        List.Forall₂ Takes pattern.toList parts := by
  have hpieces : glob.pieces = pattern.toList.map Piece.ofChar := by
    rw [eq_ofPattern_of_compile? h, ofPattern]
  rw [isMatch, matchPieces_iff_splits, hpieces]
  simp only [List.forall₂_map_left_iff, Piece.takes_ofChar]

theorem isMatch_iff_splits_two_stars :
    compile? "*.[^?]*$\n" = some (ofPattern "*.[^?]*$\n") ∧
      ∃ parts : List (List Char), parts.flatten = "a.b.[^*]$c$\n".toList ∧
        List.Forall₂ Takes "*.[^?]*$\n".toList parts := by
  have hcompile : compile? "*.[^?]*$\n" = some (ofPattern "*.[^?]*$\n") := by decide
  exact ⟨hcompile, (isMatch_iff_splits hcompile _).1 (by decide)⟩

end RouteHighlight.Glob
