import RouteHighlight.Proofs.Lexer.Piece
import RouteHighlight.Proofs.Token.Merge

/-!
# Merged pieces

Pieces are merged where neighbours have one kind.  How a text was cut into pieces before does not
show afterwards: the merged pieces depend on nothing but the kind of each character.
-/

namespace RouteHighlight.Piece

open Text (byteLength)

variable {pieces ps qs : List Piece}

/-- Puts a piece before merged ones: it is joined to the first of them if that has its kind. -/
def attach (piece : Piece) : List Piece → List Piece
  | [] => [piece]
  | next :: pieces =>
    if piece.kind = next.kind then ⟨piece.kind, piece.text ++ next.text⟩ :: pieces
    else piece :: next :: pieces

/-- The pieces that have characters, with neighbours of one kind as one piece. -/
def merged : List Piece → List Piece
  | [] => []
  | piece :: pieces => if piece.text = [] then merged pieces else attach piece (merged pieces)

def labels (pieces : List Piece) : List (TokenKind × Char) :=
  pieces.flatMap fun piece => piece.text.map (piece.kind, ·)

@[simp] theorem labels_nil : labels [] = [] := rfl

@[simp] theorem labels_cons (piece : Piece) (pieces : List Piece) :
    labels (piece :: pieces) = piece.text.map (piece.kind, ·) ++ labels pieces := by
  simp [labels]

@[simp] theorem labels_append (ps qs : List Piece) :
    labels (ps ++ qs) = labels ps ++ labels qs := by
  simp [labels]

theorem attach_cons (kind : TokenKind) (c : Char) (cs : List Char) (pieces : List Piece) :
    attach ⟨kind, c :: cs⟩ pieces = attach ⟨kind, [c]⟩ (attach ⟨kind, cs⟩ pieces) := by
  cases pieces with
  | nil => simp [attach]
  | cons next pieces =>
      by_cases hkind : kind = next.kind <;> simp [attach, hkind]

theorem merged_eq_foldr (pieces : List Piece) :
    merged pieces = (labels pieces).foldr (fun label => attach ⟨label.1, [label.2]⟩) [] := by
  induction pieces with
  | nil => rfl
  | cons piece pieces ih =>
      obtain ⟨kind, text⟩ := piece
      rw [labels_cons, List.foldr_append, ← ih, merged]
      -- a piece is attached as a whole or from its last character to its first
      induction text with
      | nil => rfl
      | cons c cs ihtext =>
          by_cases hne : cs = []
          · simp [hne]
          · rw [if_neg (by simp), attach_cons]
            rw [if_neg hne] at ihtext
            rw [ihtext, List.map_cons, List.foldr_cons]

theorem merged_congr (h : labels ps = labels qs) : merged ps = merged qs := by
  rw [merged_eq_foldr, merged_eq_foldr, h]

@[simp] theorem plain_attach (piece : Piece) (pieces : List Piece) :
    plain (attach piece pieces) = piece.text ++ plain pieces := by
  cases pieces with
  | nil => rfl
  | cons next pieces => by_cases hkind : piece.kind = next.kind <;> simp [attach, hkind]

theorem plain_merged (pieces : List Piece) : plain (merged pieces) = plain pieces := by
  induction pieces with
  | nil => rfl
  | cons piece pieces ih =>
      by_cases hne : piece.text = []
      · simp [merged, hne, ih]
      · simp [merged, hne, ih]

/-! ## Merging the tokens -/

theorem fuse_token (piece : Piece) (base : Nat) (pieces : List Piece) :
    Token.fuse (piece.token base) (layOut (base + byteLength piece.text) pieces) =
      layOut base (attach piece pieces) := by
  cases pieces with
  | nil => rfl
  | cons next pieces =>
      have hcontinues : (piece.token base).continues
          (next.token (base + byteLength piece.text)) = decide (piece.kind = next.kind) := by
        simp [Token.continues, token, beq_eq_decide]
      rw [layOut_cons, Token.fuse, hcontinues]
      by_cases hkind : piece.kind = next.kind
      · simp [attach, hkind, layOut_cons, token, Nat.add_assoc]
      · simp [attach, hkind, layOut_cons]

theorem fused_layOut (base : Nat) (hne : ∀ piece ∈ pieces, piece.text ≠ []) :
    Token.fused (layOut base pieces) = layOut base (merged pieces) := by
  induction pieces generalizing base with
  | nil => rfl
  | cons piece pieces ih =>
      have htail := ih (base + byteLength piece.text) fun next hmem => hne next (by simp [hmem])
      rw [layOut_cons, Token.fused_cons, htail, fuse_token, merged, if_neg (hne piece (by simp))]

theorem standsIn_layOut {source : List Char} (before rest : List Char)
    (hsource : source = before ++ (plain pieces ++ rest)) :
    ∀ token ∈ layOut (byteLength before) pieces, token.StandsIn source := by
  induction pieces generalizing before with
  | nil => simp
  | cons piece pieces ih =>
      rw [plain_cons, List.append_assoc] at hsource
      have htail := ih (before ++ piece.text) (by rw [hsource, List.append_assoc])
      rw [Text.byteLength_append] at htail
      rw [layOut_cons]
      intro token hmem
      rcases List.mem_cons.1 hmem with rfl | hmem
      · exact ⟨before, plain pieces ++ rest, by simpa [Piece.token] using hsource,
          by simp [Piece.token, Text.Span.after]⟩
      · exact htail token hmem

/-- Merging the tokens of a whole source merges its pieces. -/
theorem coalesce?_layOut {source : String} (hsource : source.toList = plain pieces)
    (hne : ∀ piece ∈ pieces, piece.text ≠ []) :
    Token.coalesce? source (layOut 0 pieces) = some (layOut 0 (merged pieces)) := by
  have hstands := standsIn_layOut [] [] (by simpa using hsource)
  rw [Token.coalesce?_of_standsIn (by simpa using hstands), fused_layOut 0 hne]

end RouteHighlight.Piece
