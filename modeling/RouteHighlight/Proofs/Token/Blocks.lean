import Mathlib.Data.List.Forall2
import RouteHighlight.Proofs.Token.Merge

/-!
# Blocks of tokens

Tokens are merged block by block: a block is a run in which each token continues the one before,
taken as far as it goes.  Whatever the tokens are, a merged token has the kind and the bounds of
its block, so no two neighbours could be merged once more.  When the tokens stand in the source,
it does not matter either in how many steps they are merged.
-/

namespace RouteHighlight.Token

open Text (Place)

variable {tokens block merged xs ys : List Token} {blocks : List (List Token)}
  {token first next : Token}

/-- The tokens cut into maximal blocks: within a block each token continues the one before, and
the first token of a block does not continue the last one of the block before. -/
structure AreBlocks (tokens : List Token) (blocks : List (List Token)) : Prop where
  flatten_eq : blocks.flatten = tokens
  nil_notMem : [] ∉ blocks
  chain : ∀ block ∈ blocks, block.IsChain (continues · ·)
  cut : blocks.IsChain fun block behind =>
    ∃ hblock hbehind, (block.getLast hblock).continues (behind.head hbehind) = false

theorem areBlocks_splitBy (tokens : List Token) : AreBlocks tokens (tokens.splitBy continues) :=
  ⟨List.flatten_splitBy continues tokens, List.nil_notMem_splitBy continues tokens,
    fun _ => List.isChain_of_mem_splitBy, List.isChain_getLast_head_splitBy continues tokens⟩

theorem AreBlocks.tail (h : AreBlocks tokens (block :: blocks)) :
    AreBlocks blocks.flatten blocks where
  flatten_eq := rfl
  nil_notMem hmem := h.nil_notMem (List.mem_cons_of_mem _ hmem)
  chain part hmem := h.chain part (List.mem_cons_of_mem _ hmem)
  cut := h.cut.tail

/-- The token has the kind of the block, its first start and its last end. -/
structure Bounds (block : List Token) (token : Token) : Prop where
  kind_eq : ∀ part ∈ block, part.kind = token.kind
  start_eq : ∀ first ∈ block.head?, first.span.start = token.span.start
  stop_eq : ∀ last ∈ block.getLast?, last.span.stop = token.span.stop

/-! ## One block -/

theorem continues_iff :
    token.continues next = true ↔ token.kind = next.kind ∧ token.span.stop = next.span.start := by
  simp [continues]

theorem kind_eq_of_isChain (h : (first :: block).IsChain (continues · ·)) :
    ∀ part ∈ first :: block, part.kind = first.kind := by
  induction block generalizing first with
  | nil => simp
  | cons next block ih =>
      rw [List.isChain_cons_cons, continues_iff] at h
      intro part hmem
      rcases List.mem_cons.1 hmem with rfl | hmem
      · rfl
      · rw [h.1.1]
        exact ih h.2 part hmem

theorem offset_of_end? {source : List Char} {start here stop : Place source}
    (h : end? start here token = some stop) : stop.offset = token.span.stop := by
  unfold end? at h
  split at h
  · exact Place.offset_of_seek? h
  · contradiction

theorem offset_of_foldlM_end? {source : List Char} {start here stop : Place source}
    (h : tokens.foldlM (end? start) here = some stop) :
    stop.offset = (tokens.getLast?.map (·.span.stop)).getD here.offset := by
  induction tokens generalizing here with
  | nil => rw [← Option.some.inj h]; rfl
  | cons next tokens ih =>
      rw [List.foldlM_cons] at h
      obtain ⟨place, hplace, hfold⟩ := Option.bind_eq_some_iff.1 h
      rw [ih hfold, offset_of_end? hplace, List.getLast?_cons]
      cases tokens.getLast? <;> rfl

theorem bounds_of_join? {source : List Char} (hchain : block.IsChain (continues · ·))
    (h : join? source block = some token) : Bounds block token := by
  cases block with
  | nil => contradiction
  | cons first rest =>
      have hkind := kind_eq_of_isChain hchain
      cases rest with
      | nil =>
          obtain rfl : first = token := Option.some.inj h
          exact ⟨hkind, by simp, by simp⟩
      | cons next rest =>
          unfold join? at h
          obtain ⟨start, hstart, h⟩ := Option.bind_eq_some_iff.1 h
          obtain ⟨stop, hstop, h⟩ := Option.bind_eq_some_iff.1 h
          obtain ⟨text, -, h⟩ := Option.bind_eq_some_iff.1 h
          obtain rfl := Option.some.inj h
          refine ⟨hkind, ?_, ?_⟩
          · simpa using (Place.offset_of_seek? hstart).symm
          · have hoffset := offset_of_foldlM_end? hstop
            intro last hlast
            rw [List.getLast?_cons_cons] at hlast
            rw [hoffset, Option.mem_def.1 hlast]
            rfl

theorem Bounds.continues_eq (h : Bounds block token) (hne : block ≠ []) (next : Token) :
    token.continues next = (block.getLast hne).continues next := by
  rw [continues, continues, h.kind_eq _ (List.getLast_mem hne),
    h.stop_eq _ (List.getLast?_eq_some_getLast hne)]

/-! ## Any tokens that can be merged -/

theorem forall₂_of_mapM {α β : Type} {f : α → Option β} {as : List α} {bs : List β}
    (h : as.mapM f = some bs) : List.Forall₂ (fun a b => f a = some b) as bs := by
  induction as generalizing bs with
  | nil =>
      obtain rfl : [] = bs := Option.some.inj h
      exact .nil
  | cons a as ih =>
      rw [List.mapM_cons] at h
      obtain ⟨b, hb, h⟩ := Option.bind_eq_some_iff.1 h
      obtain ⟨bs', hbs', h⟩ := Option.bind_eq_some_iff.1 h
      obtain rfl := Option.some.inj h
      exact .cons hb (ih hbs')

theorem isChain_of_bounds (hbounds : List.Forall₂ Bounds blocks merged)
    (hcut : blocks.IsChain fun block behind =>
      ∃ hblock hbehind, (block.getLast hblock).continues (behind.head hbehind) = false) :
    merged.IsChain fun token next => token.continues next = false := by
  induction hbounds with
  | nil => exact .nil
  | @cons block token blocks merged hblock hblocks ih =>
      cases hblocks with
      | nil => exact .singleton _
      | @cons behind next blocks merged hbehind hrest =>
          rw [List.isChain_cons_cons] at hcut ⊢
          obtain ⟨⟨hne, hne', hfalse⟩, hcut⟩ := hcut
          refine ⟨?_, ih hcut⟩
          have hfirst : next.kind = (behind.head hne').kind :=
            (hbehind.kind_eq _ (List.head_mem hne')).symm
          have hstart : next.span.start = (behind.head hne').span.start :=
            (hbehind.start_eq _ (List.head?_eq_some_head hne')).symm
          rw [hblock.continues_eq hne, continues_congr hfirst hstart]
          exact hfalse

theorem bounds_of_coalesce? {source : String} (h : coalesce? source tokens = some merged) :
    List.Forall₂ Bounds (tokens.splitBy continues) merged := by
  have hjoin := (List.forall₂_and_left _ _).2
    ⟨(areBlocks_splitBy tokens).chain, forall₂_of_mapM h⟩
  exact hjoin.imp fun _ _ hblock => bounds_of_join? hblock.1 hblock.2

/-- Tokens of which none continues the one before are left as they are. -/
theorem coalesce?_of_isChain {source : String}
    (h : tokens.IsChain fun token next => token.continues next = false) :
    coalesce? source tokens = some tokens := by
  have hblocks : tokens.splitBy continues = tokens.map ([·]) := by
    rw [List.splitBy_eq_iff]
    refine ⟨?_, by simp, by simp, ?_⟩
    · rw [← List.flatMap_def, List.flatMap_singleton']
    · rw [List.isChain_map]
      exact h.imp fun token next hfalse => ⟨by simp, by simp, hfalse⟩
  have hjoin : join? source.toList ∘ ([·]) = some := rfl
  rw [coalesce?, hblocks, List.mapM_map, hjoin]
  simpa using List.mapM_pure (m := Option) (l := tokens) (f := id)

/-! ## Tokens that stand in the source -/

theorem standsIn_iff {source : String} :
    token.StandsIn source.toList ↔ token.span.slice? source = some token.text := by
  constructor
  · rintro ⟨before, behind, hsource, hspan⟩
    rw [hspan, Text.Span.after, Text.slice?_of_append before token.text.toList behind hsource,
      String.ofList_toList]
  · intro h
    unfold Text.Span.slice? at h
    split at h
    next => contradiction
    next hforward =>
      obtain ⟨rest, hrest, htake⟩ := Option.bind_eq_some_iff.1 h
      obtain ⟨text, htext, hslice⟩ := Option.bind_eq_some_iff.1 htake
      obtain ⟨before, hsource, hstart⟩ := Text.eq_append_of_dropBytes? hrest
      obtain ⟨behind, hbehind, hlength⟩ := Text.eq_append_of_takeBytes? htext
      have htoken : token.text.toList = text := by
        rw [← Option.some.inj hslice, String.toList_ofList]
      have hstop : token.span.start + (token.span.stop - token.span.start) = token.span.stop :=
        Nat.add_sub_of_le (Nat.le_of_not_lt hforward)
      refine ⟨before, behind, by rw [htoken, hsource, hbehind], ?_⟩
      rw [Text.Span.after, htoken, hlength, hstart, hstop]

theorem StandsIn.start_le_stop {source : List Char} (h : token.StandsIn source) :
    token.span.start ≤ token.span.stop := by
  obtain ⟨_, _, -, hspan⟩ := h
  rw [hspan]
  exact Nat.le_add_right _ _

theorem fuse_of_continues (h : token.continues next = true) (tokens : List Token) :
    fuse token (next :: tokens) = joined token [next] :: tokens :=
  if_pos h

theorem fuse_of_not_continues (h : token.continues next ≠ true) (tokens : List Token) :
    fuse token (next :: tokens) = token :: next :: tokens :=
  if_neg h

theorem StandsIn.fuse {source : List Char} (htoken : token.StandsIn source)
    (htokens : ∀ next ∈ tokens, next.StandsIn source) :
    ∀ part ∈ fuse token tokens, part.StandsIn source := by
  cases tokens with
  | nil => simpa [Token.fuse] using htoken
  | cons next tokens =>
      rw [List.forall_mem_cons] at htokens
      by_cases hcontinues : token.continues next = true
      · have hpair : (Token.joined token [next]).StandsIn source :=
          .joined (by simpa using hcontinues) (by simpa using ⟨htoken, htokens.1⟩)
        rw [fuse_of_continues hcontinues]
        exact List.forall_mem_cons.2 ⟨hpair, htokens.2⟩
      · rw [fuse_of_not_continues hcontinues]
        exact List.forall_mem_cons.2 ⟨htoken, List.forall_mem_cons.2 htokens⟩

theorem StandsIn.fused {source : List Char} (h : ∀ token ∈ tokens, token.StandsIn source) :
    ∀ token ∈ fused tokens, token.StandsIn source := by
  induction tokens with
  | nil => simp [Token.fused]
  | cons token tokens ih =>
      rw [List.forall_mem_cons] at h
      rw [fused_cons]
      exact h.1.fuse (ih h.2)

/-! ## Merging in several steps -/

/-- A token that continues another can be joined to it before or after the tokens behind it. -/
theorem fuse_fuse (h : token.continues next = true) (tokens : List Token) :
    fuse token (fuse next tokens) = fuse (joined token [next]) tokens := by
  cases tokens with
  | nil => exact fuse_of_continues h []
  | cons last tokens =>
      have hpair : (joined token [next]).continues last = next.continues last := by
        simp only [continues, joined, (continues_iff.1 h).1]
      by_cases hlast : next.continues last = true
      · have hjoined : token.continues (joined next [last]) = true := by
          rw [← h]
          exact continues_congr (joined_kind ..) (joined_start ..)
        rw [fuse_of_continues hlast, fuse_of_continues hjoined,
          fuse_of_continues (hpair.trans hlast)]
        simp [joined, String.append_assoc]
      · rw [fuse_of_not_continues hlast, fuse_of_continues h,
          fuse_of_not_continues (by rwa [hpair])]

theorem foldr_fuse_fuse (token : Token) (tokens behind : List Token) :
    (fuse token tokens).foldr fuse behind = fuse token (tokens.foldr fuse behind) := by
  cases tokens with
  | nil => rfl
  | cons next tokens =>
      by_cases h : token.continues next = true
      · rw [fuse_of_continues h, List.foldr_cons, List.foldr_cons, fuse_fuse h]
      · rw [fuse_of_not_continues h, List.foldr_cons]

theorem foldr_fuse_fused (tokens behind : List Token) :
    (fused tokens).foldr fuse behind = tokens.foldr fuse behind := by
  induction tokens with
  | nil => rfl
  | cons token tokens ih => rw [fused_cons, foldr_fuse_fuse, ih, List.foldr_cons]

theorem fused_append_fused (xs ys : List Token) :
    fused (fused xs ++ fused ys) = fused (xs ++ ys) := by
  calc fused (fused xs ++ fused ys)
    _ = (fused xs).foldr fuse ((fused ys).foldr fuse []) := List.foldr_append
    _ = xs.foldr fuse (ys.foldr fuse []) := by rw [foldr_fuse_fused, foldr_fuse_fused]
    _ = fused (xs ++ ys) := List.foldr_append.symm

/-- Merged tokens are left as they are when they are merged again, and tokens that stand in the
source can be merged in parts first. -/
theorem coalesce?_absorbs (source : String) :
    (∀ tokens merged, coalesce? source tokens = some merged →
      coalesce? source merged = some merged) ∧
    ∀ xs ys : List Token, (∀ token ∈ xs ++ ys, token.span.slice? source = some token.text) →
      ∃ front back merged, coalesce? source xs = some front ∧ coalesce? source ys = some back ∧
        coalesce? source (xs ++ ys) = some merged ∧
        coalesce? source (front ++ back) = some merged := by
  constructor
  · intro tokens merged h
    have hcut := (areBlocks_splitBy tokens).cut
    exact coalesce?_of_isChain (isChain_of_bounds (bounds_of_coalesce? h) hcut)
  · intro xs ys h
    have hstands : ∀ token ∈ xs ++ ys, token.StandsIn source.toList :=
      fun token hmem => standsIn_iff.2 (h token hmem)
    have hxs : ∀ token ∈ xs, token.StandsIn source.toList :=
      fun token hmem => hstands token (List.mem_append_left _ hmem)
    have hys : ∀ token ∈ ys, token.StandsIn source.toList :=
      fun token hmem => hstands token (List.mem_append_right _ hmem)
    have hparts : ∀ token ∈ fused xs ++ fused ys, token.StandsIn source.toList := by
      intro token hmem
      exact (List.mem_append.1 hmem).elim (StandsIn.fused hxs token) (StandsIn.fused hys token)
    refine ⟨fused xs, fused ys, fused (xs ++ ys), coalesce?_of_standsIn hxs,
      coalesce?_of_standsIn hys, coalesce?_of_standsIn hstands, ?_⟩
    rw [coalesce?_of_standsIn hparts, fused_append_fused]

theorem coalesce?_absorbs_seam :
    let source := "GET /a b"
    let xs : List Token := [⟨.keyword, "GET", ⟨0, 3⟩⟩, ⟨.text, "/", ⟨4, 5⟩⟩]
    let ys : List Token := [⟨.text, "a", ⟨5, 6⟩⟩, ⟨.text, " b", ⟨6, 8⟩⟩, ⟨.keyword, "GE", ⟨0, 2⟩⟩]
    let merged : List Token :=
      [⟨.keyword, "GET", ⟨0, 3⟩⟩, ⟨.text, "/a b", ⟨4, 8⟩⟩, ⟨.keyword, "GE", ⟨0, 2⟩⟩]
    coalesce? source (xs ++ ys) = some merged ∧ coalesce? source merged = some merged ∧
      (∀ token ∈ xs ++ ys, token.span.slice? source = some token.text) ∧
      ∃ front back, coalesce? source xs = some front ∧ coalesce? source ys = some back ∧
        coalesce? source (front ++ back) = some merged := by
  intro source xs ys merged
  have hmerged : coalesce? source (xs ++ ys) = some merged := by decide +kernel
  have hslices : ∀ token ∈ xs ++ ys, token.span.slice? source = some token.text := by
    decide +kernel
  have hagain := (coalesce?_absorbs source).1 (xs ++ ys) merged hmerged
  obtain ⟨front, back, whole, hfront, hback, hwhole, hparts⟩ :=
    (coalesce?_absorbs source).2 xs ys hslices
  obtain rfl : whole = merged := Option.some.inj (hwhole.symm.trans hmerged)
  exact ⟨hmerged, hagain, hslices, front, back, hfront, hback, hparts⟩

end RouteHighlight.Token
