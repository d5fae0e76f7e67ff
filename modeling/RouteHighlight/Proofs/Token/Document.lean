import RouteHighlight.Proofs.Json.RoundTrip
import RouteHighlight.Token.Document

/-!
# The document of tokens loses nothing

The document is read back as an array of one object for each token, in order, whatever the texts
hold and wherever the spans lie.  Since the objects tell the tokens, so does the document.
-/

namespace RouteHighlight.Token

open Json (Value)

theorem within_toJson (n : Nat) (token : Token) : (toJson token).Within (n + 3) := by
  have hspan : (Value.obj [("start", .int token.span.start), ("end", .int token.span.stop)]).Within
      (n + 2) := by
    refine .obj ?_
    simp only [List.forall_mem_cons]
    exact ⟨.int _, .int _, nofun⟩
  refine .obj ?_
  simp only [List.forall_mem_cons]
  exact ⟨.str _, .str _, hspan, nofun⟩

theorem within_document (tokens : List Token) :
    (Value.arr (tokens.map toJson)).Within Json.maxDepth := by
  refine .arr fun item hitem => ?_
  obtain ⟨token, -, rfl⟩ := List.mem_map.1 hitem
  exact within_toJson 124 token

theorem toJson_injective {token other : Token} (h : toJson token = toJson other) :
    token = other := by
  obtain ⟨kind, text, start, stop⟩ := token
  obtain ⟨otherKind, otherText, otherStart, otherStop⟩ := other
  simp only [toJson, Value.obj.injEq, List.cons.injEq, Prod.mk.injEq, Value.str.injEq,
    Value.int.injEq, Int.ofNat_inj, true_and, and_true] at h
  obtain ⟨hkind, rfl, rfl, rfl⟩ := h
  obtain rfl := TokenKind.tag_injective hkind
  rfl

/-- The document of tokens is a JSON document, namely the array of the objects that tell the tokens
one by one; so it is the document of no other tokens. -/
theorem document_decodes (tokens : List Token) :
    Json.parse? (document tokens) = some (.arr (tokens.map fun token =>
        .obj [("kind", .str token.kind.tag), ("text", .str token.text),
          ("span", .obj [("start", .int token.span.start), ("end", .int token.span.stop)])])) ∧
      ∀ others, document tokens = document others → tokens = others := by
  have hparse (tokens : List Token) :
      Json.parse? (document tokens) = some (.arr (tokens.map toJson)) :=
    Json.parse?_pretty (within_document tokens)
  refine ⟨hparse tokens, fun others h => ?_⟩
  have hsame : some (Value.arr (tokens.map toJson)) = some (.arr (others.map toJson)) := by
    rw [← hparse tokens, h, hparse others]
  have hmap : tokens.map toJson = others.map toJson := by
    simpa only [Option.some.injEq, Value.arr.injEq] using hsame
  exact List.map_inj_right (fun _ _ => toJson_injective) |>.1 hmap

end RouteHighlight.Token
