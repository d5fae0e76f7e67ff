import Mathlib.Data.List.Induction
import RouteHighlight.Proofs.Token.Blocks

/-!
# Merging token by token

Tokens can be merged as they come: each of them is joined to the last merged token if it continues
that one, and the slice of the source at the joint span is looked up anew.  This gives the same
tokens as merging block by block, and fails in the same cases, whatever the tokens are.
-/

namespace RouteHighlight.Token

open Text (Place takeBytes?)

variable {source : String} {tokens rest : List Token} {token first last next : Token}

/-- The token made longer by one that continues it, if the source has a slice there. -/
def extend? (source : String) (token next : Token) : Option Token :=
  let span : Text.Span := ⟨token.span.start, next.span.stop⟩
  (span.slice? source).map (⟨token.kind, ·, span⟩)

def push? (source : String) (merged : List Token) (token : Token) : Option (List Token) :=
  match merged.getLast? with
  | none => some [token]
  | some last =>
    if last.continues token then (extend? source last token).map (merged.dropLast ++ [·])
    else some (merged ++ [token])

/-! ## The slice at a joint span -/

theorem slice?_eq_bind_end? (start here : Place source.toList) (token : Token) :
    (Text.Span.mk start.offset token.span.stop).slice? source =
      (end? start here token).bind fun _ =>
        (takeBytes? (token.span.stop - start.offset) start.rest).map String.ofList := by
  unfold Text.Span.slice? end?
  by_cases hle : start.offset ≤ token.span.stop
  · rw [if_neg (Nat.not_lt.2 hle), if_pos hle, start.rest_eq]
    have hrest := here.map_rest_seek? token.span.stop
    cases hplace : here.seek? token.span.stop with
    | some stop =>
        rw [Option.bind_some]
        cases htake : takeBytes? (token.span.stop - start.offset) start.rest <;> simp [htake]
    | none =>
        rw [hplace, ← start.dropBytes?_rest hle] at hrest
        have htake := Text.takeBytes?_eq_none hrest.symm
        simp [htake]
  · rw [if_pos (Nat.lt_of_not_le hle), if_neg hle]
    rfl

theorem extend?_eq (start here : Place source.toList) (hstart : token.span.start = start.offset)
    (next : Token) :
    extend? source token next = (end? start here next).bind fun stop =>
      (takeBytes? (stop.offset - start.offset) start.rest).map fun text =>
        ⟨token.kind, String.ofList text, ⟨start.offset, stop.offset⟩⟩ := by
  rw [extend?, hstart, slice?_eq_bind_end? start here]
  cases hend : end? start here next with
  | none => rfl
  | some stop =>
      rw [Option.bind_some, Option.bind_some, Option.map_map, offset_of_end? hend]
      rfl

theorem slice?_eq_none {span : Text.Span} (here : Place source.toList)
    (h : here.seek? span.start = none) : span.slice? source = none := by
  have hrest := here.map_rest_seek? span.start
  rw [h] at hrest
  simp [Text.Span.slice?, ← hrest]

theorem exists_text_of_end? {start here stop : Place source.toList}
    (h : end? start here token = some stop) :
    ∃ text, takeBytes? (stop.offset - start.offset) start.rest = some text := by
  rw [offset_of_end? h]
  unfold end? at h
  split at h
  next hle =>
    have hrest := here.map_rest_seek? token.span.stop
    rw [h, ← start.dropBytes?_rest hle] at hrest
    exact Text.exists_takeBytes? hrest.symm
  next => contradiction

theorem exists_text_of_foldlM {start here stop : Place source.toList} (hne : rest ≠ [])
    (h : rest.foldlM (end? start) here = some stop) :
    ∃ text, takeBytes? (stop.offset - start.offset) start.rest = some text := by
  rw [← List.dropLast_append_getLast hne, List.foldlM_append] at h
  obtain ⟨place, -, hlast⟩ := Option.bind_eq_some_iff.1 h
  rw [List.foldlM_cons] at hlast
  obtain ⟨last, hend, hnil⟩ := Option.bind_eq_some_iff.1 hlast
  rw [← Option.some.inj hnil]
  exact exists_text_of_end? hend

/-! ## One block -/

theorem join?_of_ne_nil (hne : rest ≠ []) :
    join? source.toList (first :: rest) =
      ((Place.start source.toList).seek? first.span.start).bind fun start =>
        (rest.foldlM (end? start) start).bind fun stop =>
          (takeBytes? (stop.offset - start.offset) start.rest).map fun text =>
            ⟨first.kind, String.ofList text, ⟨start.offset, stop.offset⟩⟩ := by
  cases rest with
  | nil => contradiction
  | cons next rest =>
      rw [join?]
      · simp only [Option.map_eq_bind]
        rfl
      · simp

theorem join?_pair (first last : Token) :
    join? source.toList [first, last] = extend? source first last := by
  rw [join?_of_ne_nil (by simp)]
  cases hstart : (Place.start source.toList).seek? first.span.start with
  | none =>
      have hslice : (Text.Span.mk first.span.start last.span.stop).slice? source = none :=
        slice?_eq_none _ hstart
      simp [extend?, hslice]
  | some start =>
      have hoffset := Place.offset_of_seek? hstart
      simp only [Option.bind_some, List.foldlM_nil, List.foldlM_cons, bind_pure]
      exact (extend?_eq start start hoffset.symm last).symm

theorem join?_concat (first : Token) (rest : List Token) (last : Token) :
    join? source.toList (first :: (rest ++ [last])) =
      (join? source.toList (first :: rest)).bind (extend? source · last) := by
  by_cases hne : rest = []
  · subst hne
    exact join?_pair first last
  · rw [join?_of_ne_nil (by simp), join?_of_ne_nil hne]
    cases (Place.start source.toList).seek? first.span.start with
    | none => rfl
    | some start =>
        rw [Option.bind_some, Option.bind_some, List.foldlM_append]
        cases hfold : rest.foldlM (end? start) start with
        | none => rfl
        | some stop =>
            obtain ⟨text, htext⟩ := exists_text_of_foldlM hne hfold
            simp only [Option.bind_some, htext, Option.map_some, List.foldlM_cons, List.foldlM_nil,
              bind_pure, Option.bind_eq_bind]
            have hlonger : extend? source
                ⟨first.kind, String.ofList text, ⟨start.offset, stop.offset⟩⟩ last = _ :=
              extend?_eq start stop rfl last
            exact hlonger.symm

theorem foldlM_extend? (first : Token) (rest : List Token) :
    rest.foldlM (extend? source) first = join? source.toList (first :: rest) := by
  induction rest using List.reverseRecOn with
  | nil => rfl
  | append_singleton rest last ih =>
      rw [List.foldlM_append, ih, join?_concat]
      simp only [List.foldlM_cons, List.foldlM_nil, bind_pure, Option.bind_eq_bind]

/-! ## All blocks -/

theorem push?_concat (merged : List Token) (last token : Token) :
    push? source (merged ++ [last]) token =
      if last.continues token then (extend? source last token).map (merged ++ [·])
      else some (merged ++ [last, token]) := by
  simp [push?]

theorem push?_of_not_continues {merged : List Token}
    (h : ∀ last ∈ merged.getLast?, last.continues token = false) :
    push? source merged token = some (merged ++ [token]) := by
  unfold push?
  cases hlast : merged.getLast? with
  | none =>
      obtain rfl := List.getLast?_eq_none_iff.1 hlast
      rfl
  | some last => simp [h last hlast]

theorem foldlM_push?_of_isChain (merged : List Token)
    (h : (token :: rest).IsChain (continues · ·)) :
    rest.foldlM (push? source) (merged ++ [token]) =
      (rest.foldlM (extend? source) token).map (merged ++ [·]) := by
  induction rest generalizing token with
  | nil => rfl
  | cons next rest ih =>
      rw [List.isChain_cons_cons] at h
      rw [List.foldlM_cons, List.foldlM_cons, push?_concat, if_pos h.1]
      cases hextend : extend? source token next with
      | none => rfl
      | some longer =>
          obtain ⟨text, -, rfl⟩ := Option.map_eq_some_iff.1 hextend
          apply ih
          -- the longer token is continued by what continues `next`
          have hkind := (continues_iff.1 h.1).1
          cases rest with
          | nil => exact .singleton _
          | cons last rest =>
              rw [List.isChain_cons_cons] at h ⊢
              simpa [continues, hkind] using h.2

theorem foldlM_push?_block {merged : List Token} (hchain : (first :: rest).IsChain (continues · ·))
    (hmerged : ∀ last ∈ merged.getLast?, last.continues first = false) :
    (first :: rest).foldlM (push? source) merged =
      (join? source.toList (first :: rest)).map (merged ++ [·]) := by
  rw [List.foldlM_cons, push?_of_not_continues hmerged, Option.bind_eq_bind, Option.bind_some,
    foldlM_push?_of_isChain merged hchain, foldlM_extend?]

theorem AreBlocks.not_continues_head {block : List Token} {blocks : List (List Token)}
    (h : AreBlocks tokens (block :: blocks)) (hbounds : Bounds block token) :
    ∀ next ∈ blocks.flatten.head?, token.continues next = false := by
  intro next hnext
  cases blocks with
  | nil => simp at hnext
  | cons behind blocks =>
      obtain ⟨⟨hne, hne', hfalse⟩, -⟩ := List.isChain_cons_cons.1 h.cut
      rw [List.flatten_cons, List.head?_append_of_ne_nil _ hne',
        List.head?_eq_some_head hne'] at hnext
      rw [hbounds.continues_eq hne, ← Option.some.inj hnext]
      exact hfalse

/-- The blocks are put one by one behind tokens that they do not continue. -/
theorem AreBlocks.foldlM_push? {blocks : List (List Token)} (h : AreBlocks tokens blocks)
    (merged : List Token)
    (hmerged : ∀ last ∈ merged.getLast?, ∀ first ∈ tokens.head?, last.continues first = false) :
    tokens.foldlM (push? source) merged =
      (blocks.mapM (join? source.toList)).map (merged ++ ·) := by
  induction blocks generalizing tokens merged with
  | nil =>
      obtain rfl := h.flatten_eq
      simp
  | cons block blocks ih =>
      obtain rfl := h.flatten_eq
      have hblock := h.chain block List.mem_cons_self
      cases block with
      | nil => exact absurd List.mem_cons_self h.nil_notMem
      | cons first rest =>
          have hfirst : ∀ last ∈ merged.getLast?, last.continues first = false :=
            fun last hlast => hmerged last hlast first rfl
          rw [List.flatten_cons, List.foldlM_append, foldlM_push?_block hblock hfirst,
            List.mapM_cons]
          cases hjoin : join? source.toList (first :: rest) with
          | none => rfl
          | some token =>
              have hbehind : ∀ last ∈ (merged ++ [token]).getLast?,
                  ∀ next ∈ blocks.flatten.head?, last.continues next = false := by
                rw [List.getLast?_concat]
                rintro last ⟨rfl⟩
                exact h.not_continues_head (bounds_of_join? hblock hjoin)
              simp only [Option.bind_eq_bind, Option.map_some, Option.bind_some,
                ih h.tail (merged ++ [token]) hbehind]
              cases blocks.mapM (join? source.toList) <;> simp

/-- Merging token by token gives the same as merging block by block. -/
theorem foldlM_push? (source : String) (tokens : List Token) :
    tokens.foldlM (push? source) [] = coalesce? source tokens := by
  rw [(areBlocks_splitBy tokens).foldlM_push? [] (by simp)]
  simp [coalesce?]

end RouteHighlight.Token
