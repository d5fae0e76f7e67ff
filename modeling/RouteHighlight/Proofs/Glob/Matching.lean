import RouteHighlight.Glob

/-!
# What a file name pattern matches

A star matches nothing, or one more character that is not a newline.  The rows in which matches
are computed are not needed beyond these equations.
-/

namespace RouteHighlight.Glob

theorem eq_ofPattern_of_compile? {pattern : String} {glob : Glob}
    (h : compile? pattern = some glob) : glob = ofPattern pattern := by
  simp only [compile?] at h
  split at h
  · exact (Option.some.inj h).symm
  · contradiction

theorem matchPieces_star_nil (pieces : List Piece) :
    matchPieces (.star :: pieces) [] = matchPieces pieces [] := by
  rw [matchPieces_eq, matchPieces_eq]
  simp [row, emptyRow]

theorem matchPieces_star_cons (pieces : List Piece) (c : Char) (cs : List Char) :
    matchPieces (.star :: pieces) (c :: cs) =
      (matchPieces pieces (c :: cs) || c != '\n' && matchPieces (.star :: pieces) cs) := by
  rw [matchPieces_eq, matchPieces_eq, matchPieces_eq]
  have hshorter : nextRow c pieces (row (.star :: pieces) cs).tail = row pieces (c :: cs) := by
    rw [tail_row]
    rfl
  rw [← hshorter]
  rfl

theorem matchPieces_star_append {pieces : List Piece} {front name : List Char}
    (hfront : '\n' ∉ front) (hname : matchPieces pieces name = true) :
    matchPieces (.star :: pieces) (front ++ name) = true := by
  induction front with
  | nil =>
      cases name with
      | nil => rwa [List.nil_append, matchPieces_star_nil]
      | cons c cs => simp [matchPieces_star_cons, hname]
  | cons c cs ih =>
      obtain ⟨hc, hcs⟩ := not_or.1 (mt List.mem_cons.2 hfront)
      rw [List.cons_append, matchPieces_star_cons, ih hcs]
      simp [Ne.symm hc]

theorem matchPieces_lit (name : List Char) : matchPieces (name.map .lit) name = true := by
  induction name with
  | nil => rfl
  | cons c cs ih => simp [matchPieces, ih]

end RouteHighlight.Glob
