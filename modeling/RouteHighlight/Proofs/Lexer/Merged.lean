import RouteHighlight.Proofs.Lexer.Coverage
import RouteHighlight.Proofs.Lexer.Labels
import RouteHighlight.Proofs.Token.Loop

/-!
# Merged tokens in the source

Tokens that stand in the source can always be merged, one by one or block by block, in whatever
order they come and even where they overlap: the merged tokens are the blocks, stand in the source
themselves, and give every byte the kinds that it had.  The merged tokens of a pass tile the source
like the tokens of the pass.
-/

namespace RouteHighlight

open Piece (plain layOut)

namespace Token

variable {tokens block merged : List Token} {token next : Token} {source : List Char} {byte : Nat}
  {kind : TokenKind}

structure Sums (block : List Token) (token : Token) : Prop extends Bounds block token where
  text_eq : token.text = detokenize block

/-- A token of the kind covers the byte. -/
def Marks (tokens : List Token) (byte : Nat) (kind : TokenKind) : Prop :=
  ∃ token ∈ tokens, token.kind = kind ∧ token.span.start ≤ byte ∧ byte < token.span.stop

/-- The tokens `merged` are the blocks of the tokens. -/
structure Merges (source : String) (tokens merged : List Token) : Prop where
  blocks : ∃ blocks, AreBlocks tokens blocks ∧ List.Forall₂ Sums blocks merged
  slices : ∀ token ∈ merged, token.span.slice? source = some token.text
  apart : merged.IsChain fun token next => token.continues next = false
  text_eq : detokenize merged = detokenize tokens
  marks_iff : ∀ byte kind, Marks merged byte kind ↔ Marks tokens byte kind

/-! ## Texts -/

theorem detokenize_cons (token : Token) (tokens : List Token) :
    detokenize (token :: tokens) = token.text ++ detokenize tokens := by
  rw [detokenize, List.map_cons, String.join_cons]
  rfl

theorem joined_text (token : Token) (tokens : List Token) :
    (joined token tokens).text = detokenize (token :: tokens) := by
  induction tokens generalizing token with
  | nil => simp [joined, detokenize]
  | cons next tokens ih => rw [joined, ih, detokenize_cons token]

theorem detokenize_fuse (token : Token) (tokens : List Token) :
    detokenize (fuse token tokens) = detokenize (token :: tokens) := by
  cases tokens with
  | nil => rfl
  | cons next tokens =>
      by_cases h : token.continues next = true
      · rw [fuse_of_continues h]
        simp only [detokenize_cons, joined, String.append_assoc]
      · rw [fuse_of_not_continues h]

theorem detokenize_fused (tokens : List Token) : detokenize (fused tokens) = detokenize tokens := by
  induction tokens with
  | nil => rfl
  | cons token tokens ih => rw [fused_cons, detokenize_fuse, detokenize_cons, ih, detokenize_cons]

/-! ## Bytes -/

theorem marks_cons :
    Marks (token :: tokens) byte kind ↔
      (token.kind = kind ∧ token.span.start ≤ byte ∧ byte < token.span.stop) ∨
        Marks tokens byte kind := by
  simp [Marks]

theorem marks_fuse (htoken : token.span.start ≤ token.span.stop)
    (htokens : ∀ next ∈ tokens, next.span.start ≤ next.span.stop) :
    Marks (fuse token tokens) byte kind ↔ Marks (token :: tokens) byte kind := by
  cases tokens with
  | nil => rfl
  | cons next tokens =>
      by_cases h : token.continues next = true
      · have hnext := htokens next (by simp)
        obtain ⟨hkind, htouch⟩ := continues_iff.1 h
        rw [fuse_of_continues h, marks_cons, marks_cons, marks_cons, ← or_assoc]
        apply or_congr_left
        simp only [joined, ← hkind]
        constructor
        · rintro ⟨heq, hstart, hstop⟩
          rcases Nat.lt_or_ge byte token.span.stop with hlt | hge
          · exact .inl ⟨heq, hstart, hlt⟩
          · exact .inr ⟨heq, by omega, hstop⟩
        · rintro (⟨heq, hstart, hstop⟩ | ⟨heq, hstart, hstop⟩)
          · exact ⟨heq, hstart, by omega⟩
          · exact ⟨heq, by omega, hstop⟩
      · rw [fuse_of_not_continues h]

theorem marks_fused (h : ∀ token ∈ tokens, token.StandsIn source) :
    Marks (fused tokens) byte kind ↔ Marks tokens byte kind := by
  induction tokens with
  | nil => rfl
  | cons token tokens ih =>
      rw [List.forall_mem_cons] at h
      have hbehind := StandsIn.fused h.2
      have hforward : ∀ next ∈ fused tokens, next.span.start ≤ next.span.stop :=
        fun next hmem => (hbehind next hmem).start_le_stop
      rw [fused_cons, marks_fuse h.1.start_le_stop hforward, marks_cons, marks_cons, ih h.2]

/-! ## Merging slices -/

theorem sums_of_join? (hchain : block.IsChain (continues · ·))
    (hstands : ∀ token ∈ block, token.StandsIn source) (h : join? source block = some token) :
    Sums block token := by
  refine ⟨bounds_of_join? hchain h, ?_⟩
  cases block with
  | nil => contradiction
  | cons first rest =>
      rw [join?_of_standsIn hchain hstands] at h
      rw [← Option.some.inj h, joined_text]

theorem merges_fused {source : String} (h : ∀ token ∈ tokens, token.StandsIn source.toList) :
    Merges source tokens (fused tokens) := by
  have hmerged := coalesce?_of_standsIn h
  have hblocks := areBlocks_splitBy tokens
  have hstands : ∀ block ∈ tokens.splitBy continues, ∀ token ∈ block,
      token.StandsIn source.toList := by
    intro block hblock token hmem
    apply h
    rw [← hblocks.flatten_eq]
    exact List.mem_flatten.2 ⟨block, hblock, hmem⟩
  have hjoin := (List.forall₂_and_left _ _).2
    ⟨fun block hblock => And.intro (hblocks.chain block hblock) (hstands block hblock),
      forall₂_of_mapM hmerged⟩
  exact {
    blocks := ⟨_, hblocks, hjoin.imp fun _ _ hblock =>
      sums_of_join? hblock.1.1 hblock.1.2 hblock.2⟩
    slices := fun token hmem => standsIn_iff.1 (StandsIn.fused h token hmem)
    apart := isChain_of_bounds (bounds_of_coalesce? hmerged) hblocks.cut
    text_eq := detokenize_fused tokens
    marks_iff := fun _ _ => marks_fused h }

theorem Tiles.isChain_kind_ne {source : String} {start stop : Nat}
    (h : Tiles source start merged stop)
    (hapart : merged.IsChain fun token next => token.continues next = false) :
    merged.IsChain fun token next => token.kind ≠ next.kind := by
  induction merged generalizing start with
  | nil => exact .nil
  | cons token merged ih =>
      obtain ⟨-, -, htail⟩ := h
      cases merged with
      | nil => exact .singleton _
      | cons next merged =>
          rw [List.isChain_cons_cons] at hapart ⊢
          refine ⟨fun hkind => ?_, ih htail hapart.2⟩
          have hcontinues := continues_iff.2 ⟨hkind, htail.1.symm⟩
          rw [hapart.1] at hcontinues
          contradiction

end Token

/-! ## The tokens of a pass -/

theorem Piece.ne_nil_of_mem_merged (pieces : List Piece) :
    ∀ piece ∈ merged pieces, piece.text ≠ [] := by
  induction pieces with
  | nil => simp [merged]
  | cons piece pieces ih =>
      rw [merged]
      split
      next => exact ih
      next hne =>
        cases hmerged : merged pieces with
        | nil => simpa [attach] using hne
        | cons next behind =>
            rw [hmerged, List.forall_mem_cons] at ih
            rw [attach]
            split
            · exact List.forall_mem_cons.2 ⟨by simp [hne], ih.2⟩
            · exact List.forall_mem_cons.2 ⟨hne, List.forall_mem_cons.2 ih⟩

/-- Merging token by token is merging block by block, for any tokens.  Tokens that stand in the
source can be merged so, and the merged tokens of a pass tile the source, with neighbours of
different kinds. -/
theorem coalesce?_merges (source : String) :
    (∀ tokens, tokens.foldlM (Token.push? source) [] = Token.coalesce? source tokens) ∧
    (∀ tokens : List Token, (∀ token ∈ tokens, token.span.slice? source = some token.text) →
      ∃ merged, Token.coalesce? source tokens = some merged ∧ Token.Merges source tokens merged) ∧
    ∀ options,
      let tokens := (Stream.start options source).drain.tokens
      ∃ merged, Token.coalesce? source tokens = some merged ∧ Token.Merges source tokens merged ∧
        Token.Tiles source 0 merged source.utf8ByteSize ∧
        merged.IsChain fun token next => token.kind ≠ next.kind := by
  refine ⟨Token.foldlM_push? source, ?_, ?_⟩
  · intro tokens h
    have hstands : ∀ token ∈ tokens, token.StandsIn source.toList :=
      fun token hmem => Token.standsIn_iff.2 (h token hmem)
    exact ⟨_, Token.coalesce?_of_standsIn hstands, Token.merges_fused hstands⟩
  · intro options tokens
    obtain ⟨chunks, final, hrun⟩ := exists_run options .root source.toList
    have htokens : tokens = layOut 0 chunks.flatten := (Stream.drain_start hrun).1
    have hsource : source.toList = plain chunks.flatten := by simpa using hrun.text_eq
    have hstands : ∀ token ∈ tokens, token.StandsIn source.toList := by
      rw [htokens]
      exact Piece.standsIn_layOut [] [] (by simpa using hsource)
    have hfused : Token.fused tokens = layOut 0 (Piece.merged chunks.flatten) := by
      rw [htokens, Piece.fused_layOut 0 hrun.piece_ne_nil]
    have hmerges := Token.merges_fused hstands
    have htiles : Token.Tiles source 0 (Token.fused tokens) source.utf8ByteSize := by
      have hplain : source.toList = [] ++ (plain (Piece.merged chunks.flatten) ++ []) := by
        simpa [Piece.plain_merged] using hsource
      have htiled := Piece.tiles_layOut [] [] hplain (Piece.ne_nil_of_mem_merged _)
      rw [hfused]
      simpa [Piece.plain_merged, ← hsource, Text.byteLength_toList] using htiled
    exact ⟨_, Token.coalesce?_of_standsIn hstands, hmerges, htiles,
      htiles.isChain_kind_ne hmerges.apart⟩

theorem coalesce?_merges_out_of_order :
    let source := "GET /é"
    let tokens : List Token :=
      [⟨.text, "é", ⟨5, 7⟩⟩, ⟨.text, "", ⟨7, 7⟩⟩, ⟨.text, "GE", ⟨0, 2⟩⟩, ⟨.text, "T ", ⟨2, 4⟩⟩,
        ⟨.keyword, "ET", ⟨1, 3⟩⟩]
    let merged : List Token :=
      [⟨.text, "é", ⟨5, 7⟩⟩, ⟨.text, "GET ", ⟨0, 4⟩⟩, ⟨.keyword, "ET", ⟨1, 3⟩⟩]
    (∀ token ∈ tokens, token.span.slice? source = some token.text) ∧
      Token.coalesce? source tokens = some merged ∧ Token.Merges source tokens merged := by
  intro source tokens merged
  have hslices : ∀ token ∈ tokens, token.span.slice? source = some token.text := by
    decide +kernel
  have hmerged : Token.coalesce? source tokens = some merged := by decide +kernel
  obtain ⟨found, hfound, hmerges⟩ := (coalesce?_merges source).2.1 tokens hslices
  obtain rfl : found = merged := Option.some.inj (hfound.symm.trans hmerged)
  exact ⟨hslices, hmerged, hmerges⟩

end RouteHighlight
