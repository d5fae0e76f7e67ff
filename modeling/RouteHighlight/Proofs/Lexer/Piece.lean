import RouteHighlight.Lexer.Stream
import RouteHighlight.Proofs.Text.Bytes

/-!
# Pieces

A piece is a token without its place: a kind and the characters of that kind.  Pieces laid out
one behind the other from an offset are tokens, so a statement about what is read can leave out
where it stands.
-/

namespace RouteHighlight

open Text (byteLength)

structure Piece where
  kind : TokenKind
  text : List Char
  deriving DecidableEq, Repr

namespace Piece

def token (piece : Piece) (base : Nat) : Token :=
  ⟨piece.kind, String.ofList piece.text, ⟨base, base + byteLength piece.text⟩⟩

def plain (pieces : List Piece) : List Char := pieces.flatMap (·.text)

@[simp] theorem plain_nil : plain [] = [] := rfl

@[simp] theorem plain_cons (piece : Piece) (pieces : List Piece) :
    plain (piece :: pieces) = piece.text ++ plain pieces := by
  simp [plain]

@[simp] theorem plain_append (ps qs : List Piece) : plain (ps ++ qs) = plain ps ++ plain qs := by
  simp [plain]

/-- The tokens of pieces that stand one behind the other from byte `base` on. -/
def layOut (base : Nat) : List Piece → List Token
  | [] => []
  | piece :: pieces => piece.token base :: layOut (base + byteLength piece.text) pieces

@[simp] theorem layOut_nil (base : Nat) : layOut base [] = [] := rfl

theorem layOut_cons (base : Nat) (piece : Piece) (pieces : List Piece) :
    layOut base (piece :: pieces) =
      piece.token base :: layOut (base + byteLength piece.text) pieces := rfl

theorem layOut_append (base : Nat) (ps qs : List Piece) :
    layOut base (ps ++ qs) = layOut base ps ++ layOut (base + byteLength (plain ps)) qs := by
  induction ps generalizing base with
  | nil => simp
  | cons p ps ih =>
      rw [List.cons_append, layOut_cons, ih, layOut_cons]
      simp [Nat.add_assoc]

theorem token_mem_layOut (base : Nat) (ps qs : List Piece) (piece : Piece) :
    piece.token (base + byteLength (plain ps)) ∈ layOut base (ps ++ piece :: qs) := by
  rw [layOut_append, layOut_cons]
  exact List.mem_append_right _ List.mem_cons_self

@[simp] theorem length_layOut (base : Nat) (pieces : List Piece) :
    (layOut base pieces).length = pieces.length := by
  induction pieces generalizing base with
  | nil => rfl
  | cons p ps ih => simp [layOut_cons, ih]

theorem map_kind_layOut (base : Nat) (pieces : List Piece) :
    (layOut base pieces).map (·.kind) = pieces.map (·.kind) := by
  induction pieces generalizing base with
  | nil => rfl
  | cons p ps ih =>
      rw [layOut_cons, List.map_cons, ih, List.map_cons]
      rfl

theorem detokenize_layOut (base : Nat) (pieces : List Piece) :
    Token.detokenize (layOut base pieces) = String.ofList (plain pieces) := by
  induction pieces generalizing base with
  | nil => rfl
  | cons p ps ih =>
      have htail := ih (base + byteLength p.text)
      simp only [Token.detokenize] at htail ⊢
      rw [layOut_cons, List.map_cons, String.join_cons, htail, plain_cons, String.ofList_append]
      rfl

end Piece

def Token.shift (token : Token) (bytes : Nat) : Token :=
  ⟨token.kind, token.text, ⟨token.span.start + bytes, token.span.stop + bytes⟩⟩

theorem Piece.layOut_shift (base bytes : Nat) (pieces : List Piece) :
    layOut (base + bytes) pieces = (layOut base pieces).map (·.shift bytes) := by
  induction pieces generalizing base with
  | nil => rfl
  | cons p ps ih =>
      have htail := ih (base + byteLength p.text)
      rw [layOut_cons, layOut_cons, List.map_cons, ← htail,
        Nat.add_right_comm base bytes (byteLength p.text)]
      simp only [token, Token.shift, Nat.add_right_comm]

theorem Token.ofExtent_eq (kind : TokenKind) (base : Nat) (xs ys zs : List Char) :
    Token.ofExtent kind base (xs ++ (ys ++ zs)) ⟨xs.length, xs.length + ys.length⟩ =
      Piece.token ⟨kind, ys⟩ (base + byteLength xs) := by
  have htake : (xs ++ (ys ++ zs)).take (xs.length + ys.length) = xs ++ ys := by
    rw [← List.append_assoc, ← List.length_append, List.take_left]
  simp only [Token.ofExtent, Extent.of, Extent.span, htake, List.take_left, List.drop_left,
    Text.byteLength_append, Piece.token, Nat.add_assoc]

end RouteHighlight
