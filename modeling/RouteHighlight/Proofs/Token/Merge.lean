import Mathlib.Data.List.SplitBy
import RouteHighlight.Proofs.Text.Bytes
import RouteHighlight.Token.Merge

/-!
# Merging tokens that stand in the source

A merge looks its slices up in the source.  When every token stands there, all of them are found,
and merging is a fold from the right: each token is put before what the tokens behind it gave.
-/

namespace RouteHighlight.Token

open Text (byteLength Place Span takeBytes?)

variable {source : List Char} {token first next : Token} {tokens rest : List Token}

def StandsIn (source : List Char) (token : Token) : Prop :=
  ∃ before behind, source = before ++ (token.text.toList ++ behind) ∧
    token.span = Span.after before token.text.toList

def joined (first : Token) : List Token → Token
  | [] => first
  | next :: rest =>
    ⟨first.kind, first.text ++ (joined next rest).text,
      ⟨first.span.start, (joined next rest).span.stop⟩⟩

/-- Puts a token before merged ones: the first of them is joined to it if it continues it. -/
def fuse (token : Token) : List Token → List Token
  | [] => [token]
  | next :: tokens =>
    if token.continues next then
      ⟨token.kind, token.text ++ next.text, ⟨token.span.start, next.span.stop⟩⟩ :: tokens
    else token :: next :: tokens

def fused (tokens : List Token) : List Token := tokens.foldr fuse []

theorem fused_cons (token : Token) (tokens : List Token) :
    fused (token :: tokens) = fuse token (fused tokens) := rfl

@[simp] theorem joined_kind (first : Token) (rest : List Token) :
    (joined first rest).kind = first.kind := by
  cases rest <;> rfl

@[simp] theorem joined_start (first : Token) (rest : List Token) :
    (joined first rest).span.start = first.span.start := by
  cases rest <;> rfl

theorem continues_congr {other : Token} (hkind : next.kind = other.kind)
    (hstart : next.span.start = other.span.start) :
    token.continues next = token.continues other := by
  simp only [continues, hkind, hstart]

theorem exists_fuse_cons (token : Token) (tokens : List Token) :
    ∃ head tail, fuse token tokens = head :: tail ∧ head.kind = token.kind ∧
      head.span.start = token.span.start := by
  cases tokens with
  | nil => exact ⟨token, [], rfl, rfl, rfl⟩
  | cons next tokens =>
      by_cases hcontinues : token.continues next
      · exact ⟨⟨token.kind, token.text ++ next.text, ⟨token.span.start, next.span.stop⟩⟩, tokens,
          by rw [fuse, if_pos hcontinues], rfl, rfl⟩
      · exact ⟨token, next :: tokens, by rw [fuse, if_neg hcontinues], rfl, rfl⟩

theorem fused_append (hchain : (first :: rest).IsChain (continues · ·))
    (hend : ∀ next ∈ tokens.head?, ((first :: rest).getLast (by simp)).continues next = false) :
    fused (first :: rest ++ tokens) = joined first rest :: fused tokens := by
  induction rest generalizing first with
  | nil =>
      rw [List.singleton_append, fused_cons]
      cases tokens with
      | nil => rfl
      | cons next tokens =>
          -- whether `first` is continued shows in the first token of what is behind it
          obtain ⟨head, tail, hcons, hkind, hstart⟩ := exists_fuse_cons next (fused tokens)
          have hfirst : first.continues next = false := hend next rfl
          rw [← continues_congr hkind hstart] at hfirst
          rw [fused_cons, hcons, fuse, if_neg (by simp [hfirst]), joined]
  | cons next rest ih =>
      rw [List.isChain_cons_cons] at hchain
      have htail := ih hchain.2 (by simpa using hend)
      have hnext : first.continues (joined next rest) = true := by
        rw [← hchain.1]
        exact continues_congr (joined_kind next rest) (joined_start next rest)
      rw [List.cons_append, fused_cons, htail, fuse, if_pos hnext, joined]

/-! ## Slices of the source -/

theorem StandsIn.joined (hchain : (first :: rest).IsChain (continues · ·))
    (hstands : ∀ token ∈ first :: rest, token.StandsIn source) :
    (joined first rest).StandsIn source := by
  induction rest generalizing first with
  | nil => exact hstands first (by simp)
  | cons next rest ih =>
      rw [List.isChain_cons_cons] at hchain
      obtain ⟨before, behind, hsource, hspan⟩ := hstands first (by simp)
      obtain ⟨before', behind', hsource', hspan'⟩ :=
        ih hchain.2 fun token hmem => hstands token (by simp [hmem])
      -- what is behind `first` begins where `first` ends
      have htouch : byteLength (before ++ first.text.toList) = byteLength before' := by
        have hstop : first.span.stop = next.span.start := by
          simpa using (Bool.and_eq_true_iff.1 hchain.1).2
        rw [← joined_start next rest, hspan', hspan] at hstop
        simpa [Span.after] using hstop
      rw [hsource, ← List.append_assoc] at hsource'
      obtain ⟨hbefore, hbehind⟩ := Text.append_inj_of_byteLength hsource' htouch
      refine ⟨before, behind', ?_, ?_⟩
      · rw [hsource, hbehind, Token.joined, String.toList_append, List.append_assoc]
      · rw [Token.joined, hspan', hspan, ← hbefore]
        simp [Span.after, Nat.add_assoc]

private theorem foldlM_end? (start here : Place source)
    (hhere : rest = [] → here.offset = first.span.stop) (hstart : start.offset ≤ first.span.stop)
    (hchain : (first :: rest).IsChain (continues · ·))
    (hstands : ∀ token ∈ rest, token.StandsIn source) :
    ∃ stop, rest.foldlM (end? start) here = some stop ∧
      stop.offset = (joined first rest).span.stop := by
  induction rest generalizing first here with
  | nil => exact ⟨here, rfl, hhere rfl⟩
  | cons next rest ih =>
      rw [List.isChain_cons_cons] at hchain
      obtain ⟨before, behind, hsource, hspan⟩ := hstands next (by simp)
      have hstop : first.span.stop = next.span.start := by
        simpa using (Bool.and_eq_true_iff.1 hchain.1).2
      have hle : start.offset ≤ next.span.stop := by
        rw [hstop, hspan] at hstart
        rw [hspan]
        exact Nat.le_trans hstart (Nat.le_add_right _ _)
      obtain ⟨place, hplace, hoffset, -⟩ :=
        Place.seek?_append (hsource.trans (List.append_assoc ..).symm) here
      have hend : byteLength (before ++ next.text.toList) = next.span.stop := by
        rw [hspan, Text.byteLength_append]
        rfl
      rw [hend] at hplace hoffset
      obtain ⟨stop, hfold, hjoined⟩ :=
        ih place (fun _ => hoffset) hle hchain.2 fun token hmem => hstands token (by simp [hmem])
      refine ⟨stop, ?_, by rw [hjoined, joined]⟩
      rw [List.foldlM_cons, end?, if_pos hle, hplace]
      exact hfold

theorem join?_of_standsIn (hchain : (first :: rest).IsChain (continues · ·))
    (hstands : ∀ token ∈ first :: rest, token.StandsIn source) :
    join? source (first :: rest) = some (joined first rest) := by
  cases rest with
  | nil => rfl
  | cons next rest =>
      obtain ⟨before, behind, hsource, hspan⟩ := StandsIn.joined hchain hstands
      obtain ⟨start, hstart, hoffset, hrest⟩ := Place.seek?_append hsource (.start source)
      have hbegin : byteLength before = first.span.start := by
        rw [← joined_start first (next :: rest), hspan]
        rfl
      rw [hbegin] at hstart hoffset
      have hle : start.offset ≤ first.span.stop := by
        obtain ⟨_, _, -, hfirst⟩ := hstands first (by simp)
        rw [hoffset, hfirst]
        exact Nat.le_add_right _ _
      obtain ⟨stop, hfold, hend⟩ := foldlM_end? start start (by simp) hle hchain
        fun token hmem => hstands token (by simp [hmem])
      have htake : takeBytes? (stop.offset - start.offset) start.rest =
          some (joined first (next :: rest)).text.toList := by
        rw [hend, hspan, hoffset, ← hbegin, hrest, Span.after, Nat.add_sub_cancel_left]
        exact Text.takeBytes?_byteLength _ _
      rw [join?, hstart]
      · simp only [Option.bind_eq_bind, Option.bind_some, hfold, htake, String.ofList_toList]
        rw [hend, hoffset, joined]
        rfl
      · simp

private theorem mapM_join? (source : List Char) {blocks : List (List Token)} (hne : [] ∉ blocks)
    (hchain : ∀ block ∈ blocks, block.IsChain (continues · ·))
    (hcut : blocks.IsChain fun block behind =>
      ∃ hblock hbehind, (block.getLast hblock).continues (behind.head hbehind) = false)
    (hstands : ∀ token ∈ blocks.flatten, token.StandsIn source) :
    blocks.mapM (join? source) = some (fused blocks.flatten) := by
  induction blocks with
  | nil => rfl
  | cons block blocks ih =>
      cases block with
      | nil => simp at hne
      | cons first rest =>
          rw [List.flatten_cons] at hstands
          have hjoin := join?_of_standsIn (hchain _ (by simp))
            fun token hmem => hstands token (List.mem_append_left _ hmem)
          have htail := ih (by simpa using hne) (fun block hmem => hchain block (by simp [hmem]))
            hcut.tail fun token hmem => hstands token (List.mem_append_right _ hmem)
          have hend : ∀ next ∈ blocks.flatten.head?,
              ((first :: rest).getLast (by simp)).continues next = false := by
            cases blocks with
            | nil => simp
            | cons behind blocks =>
                rw [List.isChain_cons_cons] at hcut
                obtain ⟨⟨hblock, hbehind, hfalse⟩, -⟩ := hcut
                obtain ⟨next, behind, rfl⟩ := List.exists_cons_of_ne_nil hbehind
                simpa using hfalse
          rw [List.mapM_cons, hjoin, htail, List.flatten_cons,
            fused_append (hchain _ (by simp)) hend]
          rfl

/-- Merging tokens that stand in the source never fails, and is the fold. -/
theorem coalesce?_of_standsIn {source : String}
    (hstands : ∀ token ∈ tokens, token.StandsIn source.toList) :
    coalesce? source tokens = some (fused tokens) := by
  have hflatten := List.flatten_splitBy continues tokens
  have hmap := mapM_join? source.toList (List.nil_notMem_splitBy continues tokens)
    (fun _ => List.isChain_of_mem_splitBy) (List.isChain_getLast_head_splitBy continues tokens)
    (by rwa [hflatten])
  rwa [hflatten] at hmap

end RouteHighlight.Token
