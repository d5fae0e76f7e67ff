import RouteHighlight.Proofs.Lexer.Origin
import RouteHighlight.Proofs.Lexer.Word

/-!
# Edits that stay local

The text of a comment, and the keyword of a route, can be replaced by another one: the pass over
the edited source gives the same tokens but for that text, and the tokens behind it have moved.
What is behind the edit is read again from the same mode.  What is before it is read again since
no scan that ends before a keyword or a comment looks far enough to tell the texts apart; the
parameter list, which looks for its closing parenthesis in all that follows, is why a comment must
not gain one.
-/

namespace RouteHighlight

open Text (IsRun Stops isBlank byteLength takeBytes? dropBytes?)
open Piece (plain layOut)
open Rule (OpensRoute)

variable {options : LexerOptions} {mode target final : Mode} {text mid rest old new : List Char}
  {pieces : List Piece} {chunks : List (List Piece)}

/-! ## Texts that look alike from the front -/

theorem opensList_cons_iff {c : Char} :
    OpensList (c :: rest) ↔ c = '(' ∧ ')' ∈ rest ∧ rest.head? ≠ some ')' := by
  constructor
  · rintro ⟨p, behind, hp, hclose, heq⟩
    obtain ⟨rfl, rfl⟩ := List.cons.inj heq
    obtain ⟨d, ds, rfl⟩ := List.exists_cons_of_ne_nil hp
    have hd : d ≠ ')' := fun heq => hclose (by simp [heq])
    exact ⟨rfl, by simp, by simpa using hd⟩
  · rintro ⟨rfl, hmem, hhead⟩
    obtain ⟨p, behind, rfl, hrun⟩ := Text.exists_isRun (fun c => c != ')') rest
    have hclose : ')' ∉ p := fun hp => by simpa using hrun.all _ hp
    cases behind with
    | nil => exact absurd (by simpa using hmem) hclose
    | cons d ds =>
        obtain rfl : d = ')' := by simpa using hrun.stops
        refine ⟨p, ds, ?_, hclose, rfl⟩
        rintro rfl
        exact hhead rfl

/-- A text can stand for another one behind scans that end in root mode: neither begins with white
space, and a scan that looks into it finds no keyword and no closing parenthesis that it did not
find before. -/
structure StandsFor (old new : List Char) : Prop where
  old_head : ∃ c ∈ old.head?, isBlank c = false ∧ c ≠ ')'
  new_stops : Stops isBlank new
  opensRoute : ∀ front, front ≠ [] → OpensRoute (front ++ new) → OpensRoute (front ++ old)
  close_mem : ')' ∈ new → ')' ∈ old

theorem StandsFor.opensList {c : Char} (h : StandsFor old new)
    (hopens : OpensList (c :: (mid ++ new))) : OpensList (c :: (mid ++ old)) := by
  rw [opensList_cons_iff] at hopens ⊢
  obtain ⟨hc, hmem, hhead⟩ := hopens
  refine ⟨hc, ?_, ?_⟩
  · rw [List.mem_append] at hmem ⊢
    exact hmem.imp_right h.close_mem
  · cases mid with
    | nil =>
        obtain ⟨d, hd, -, hclose⟩ := h.old_head
        simpa [Option.mem_def.1 hd] using hclose
    | cons d mid => simpa using hhead

theorem Text.IsRun.replace {test : Char → Bool} {run : List Char} (h : IsRun test run (mid ++ old))
    (hnew : mid = [] → Stops test new) : IsRun test run (mid ++ new) := by
  refine ⟨h.all, ?_⟩
  cases mid with
  | nil => exact hnew rfl
  | cons c mid => simpa using h.stops

theorem Reads.replace (h : Reads mode text pieces target (mid ++ old)) (hold : StandsFor old new)
    (hroot : mid = [] → options.landing (plain pieces) target = .root) :
    Reads mode (plain pieces ++ (mid ++ new)) pieces target (mid ++ new) := by
  -- right before the edit the mode is root, so a scan within the path or the handler is not there
  have hmid (htarget : target ≠ .root) (hline : '\n' ∉ plain pieces) : mid ≠ [] :=
    fun hnil => hline (options.newline_mem_of_landing (hroot hnil) htarget)
  cases h with
  | blank run ne => simpa using .blank (run.replace fun _ => hold.new_stops) ne
  | comment run =>
      have hne : mid ≠ [] := by
        rintro rfl
        obtain ⟨c, hc, hblank, -⟩ := hold.old_head
        have hend : c = '\n' := by simpa using run.stops c hc
        simp [hend] at hblank
      simpa using .comment (run.replace fun hnil => absurd hnil hne)
  | keyword mem run ne => simpa using .keyword mem (run.replace fun _ => hold.new_stops) ne
  | @rootOther c _ blank hash opens =>
      exact .rootOther blank hash fun hopens => opens (hold.opensRoute (c :: mid) (by simp) hopens)
  | urlEnd run ne => simpa using .urlEnd (run.replace fun _ => hold.new_stops) ne
  | pathChar blank colon => exact .pathChar blank colon
  | pathParam run ne =>
      have hne := hmid (by simp) (by simpa using Text.newline_notMem_of_isWord run.all)
      simpa using .pathParam (run.replace fun hnil => absurd hnil hne) ne
  | colon stops =>
      have hne := hmid (by simp) (by simp)
      rw [Text.stops_append hne] at stops
      exact .colon ((Text.stops_append hne).2 stops)
  | segment word ne => simpa using .segment word ne
  | method run ne dot =>
      have hne := hmid (by simp) (by simpa using Text.newline_notMem_of_isWord run.all)
      obtain ⟨d, ds, rfl⟩ := List.exists_cons_of_ne_nil hne
      simpa using .method (run.replace fun hnil => absurd hnil hne) ne (by simpa using dot)
  | parameters ne close => simpa using .parameters ne close
  | newline => exact .newline
  | objectOther word newline opens =>
      exact .objectOther word newline fun hopens => opens (hold.opensList hopens)

theorem Run.eq_root_of_nil (h : Run options mode text chunks final rest)
    (hnil : plain chunks.flatten = []) : mode = final := by
  cases h with
  | done => rfl
  | read reads run => simp [reads.plain_ne_nil] at hnil

theorem Run.replace (h : Run options mode text chunks .root old) (hold : StandsFor old new) :
    Run options mode (plain chunks.flatten ++ new) chunks .root new := by
  generalize hroot : Mode.root = final at h
  -- the texts behind the scans change as the induction goes back from the edit to the start
  induction h with
  | done => exact .done
  | @read mode target final text mid rest pieces chunks reads run ih =>
      subst hroot
      have hmid := run.text_eq
      subst hmid
      rw [List.flatten_cons, Piece.plain_append, List.append_assoc]
      exact .read (reads.replace hold run.eq_root_of_nil) (ih hold rfl)

/-! ## Comments and keywords -/

theorem opensRoute_append {front text : List Char} (h : OpensRoute (front ++ text)) :
    (∀ other, OpensRoute (front ++ other)) ∨
      ∃ k ∈ Rule.routeKeywords, ∃ tail c rest, k.toList = front ++ tail ∧ isBlank c = true ∧
        text = tail ++ c :: rest := by
  obtain ⟨k, hk, c, rest, hc, heq⟩ := h
  rcases List.append_eq_append_iff.1 heq with ⟨tail, hkeyword, htext⟩ | ⟨tail, hfront, hrest⟩
  · exact .inr ⟨k, hk, tail, c, rest, hkeyword, hc, htext⟩
  · cases tail with
    | nil =>
        right
        exact ⟨k, hk, [], c, rest, by simpa using hfront.symm, hc, by simpa using hrest.symm⟩
    | cons d tail =>
        obtain ⟨rfl, -⟩ := List.cons.inj hrest
        left
        intro other
        exact ⟨k, hk, c, tail ++ other, hc, by simp [hfront]⟩

theorem standsFor_comment (body behind : List Char) (hclose : ')' ∉ new) :
    StandsFor ('#' :: (body ++ behind)) ('#' :: (new ++ behind)) := by
  refine ⟨⟨'#', rfl, by decide, by decide⟩, by simp, ?_, ?_⟩
  · intro front _ hopens
    rcases opensRoute_append hopens with hbefore | ⟨k, hk, tail, c, rest, hkeyword, hc, htext⟩
    · exact hbefore _
    · cases tail with
      | nil =>
          obtain ⟨rfl, -⟩ := List.cons.inj htext
          simp at hc
      | cons d tail =>
          obtain ⟨rfl, -⟩ := List.cons.inj htext
          exact absurd rfl (Rule.keyword_chars hk '#' (by simp [hkeyword])).2.1
  · simp [hclose]
    exact .inr

/-- No keyword is the end of another one. -/
theorem Rule.keyword_eq_of_suffix {k k' : String} (hk : k ∈ routeKeywords)
    (hk' : k' ∈ routeKeywords) (h : k.toList <:+ k'.toList) : k = k' := by
  have hall : (routeKeywords.all fun k => routeKeywords.all fun k' =>
      !k.toList.isSuffixOf k'.toList || k == k') = true := by decide
  have hpair := List.all_eq_true.1 (List.all_eq_true.1 hall k hk) k' hk'
  simpa [List.isSuffixOf_iff_suffix.2 h] using hpair

theorem standsFor_keyword {k k' : String} (hk : k ∈ Rule.routeKeywords)
    (hk' : k' ∈ Rule.routeKeywords) {w : List Char} (behind : List Char)
    (hw : ∀ c ∈ w, isBlank c = true) (hne : w ≠ []) :
    StandsFor (k.toList ++ (w ++ behind)) (k'.toList ++ (w ++ behind)) := by
  refine ⟨?_, ?_, ?_, ?_⟩
  · obtain ⟨c, cs, hcons⟩ := List.exists_cons_of_ne_nil (Rule.keyword_ne_nil hk)
    obtain ⟨hblank, -, hclose⟩ := Rule.keyword_chars hk c (by simp [hcons])
    exact ⟨c, by simp [hcons], hblank, hclose⟩
  · obtain ⟨c, cs, hcons⟩ := List.exists_cons_of_ne_nil (Rule.keyword_ne_nil hk')
    simpa [hcons] using (Rule.keyword_chars hk' c (by simp [hcons])).1
  · intro front hfront hopens
    rcases opensRoute_append hopens with hbefore | ⟨l, hl, tail, c, rest, hkeyword, hc, htext⟩
    · exact hbefore _
    · -- the keyword found there ends where `k'` ends, so it is `k'` and nothing stands before it
      obtain ⟨d, ds, rfl⟩ := List.exists_cons_of_ne_nil hne
      have hrun : IsRun (fun x => !isBlank x) tail (c :: rest) := by
        refine ⟨fun x hx => ?_, by simp [hc]⟩
        simp [(Rule.keyword_chars hl x (by simp [hkeyword, hx])).1]
      have htail := ((Rule.keyword_isRun hk' (hw d (by simp))).unique hrun htext).1
      have heq := Rule.keyword_eq_of_suffix hk' hl ⟨front, by rw [hkeyword, htail]⟩
      rw [← heq, htail] at hkeyword
      exact absurd (by simpa using hkeyword) hfront
  · have hclose : ')' ∉ k'.toList := fun hmem => (Rule.keyword_chars hk' _ hmem).2.2 rfl
    simp [hclose]
    exact .inr

/-! ## The edited source -/

/-- The text with another one in the place of the span. There is none if the text has no slice at
the span. -/
def Text.Span.replace? (span : Span) (source text : String) : Option String :=
  if span.stop < span.start then none
  else do
    let before ← takeBytes? span.start source.toList
    let behind ← dropBytes? span.stop source.toList
    return String.ofList (before ++ (text.toList ++ behind))

theorem Text.Span.replace?_of_append {source : String} (before old behind : List Char)
    (text : String) (h : source.toList = before ++ (old ++ behind)) :
    (Span.mk (byteLength before) (byteLength before + byteLength old)).replace? source text =
      some (String.ofList (before ++ (text.toList ++ behind))) := by
  have hbehind := dropBytes?_byteLength (before ++ old) behind
  rw [byteLength_append, List.append_assoc] at hbehind
  simp [replace?, h, takeBytes?_byteLength, hbehind]

namespace Stream

/-- With `text` in the place of a token, a pass over the source gives the same tokens, but for the
text and the end of that token and for the places of the tokens behind it, which have moved by as
many bytes as the new text is longer; and it ends in the same mode. -/
def Swaps (options : LexerOptions) (source : String) (before : List Token) (token : Token)
    (after : List Token) (text : String) : Prop :=
  ∃ edited later, token.span.replace? source text = some edited ∧
    (start options edited).drain.tokens = before ++
      ⟨token.kind, text, ⟨token.span.start, token.span.start + text.utf8ByteSize⟩⟩ :: later ∧
    later.map (·.shift token.text.utf8ByteSize) = after.map (·.shift text.utf8ByteSize) ∧
    (start options edited).drain.stream.mode = (start options source).drain.stream.mode

theorem swaps_of_reads {source : String} {before after : List (List Piece)} {piece : Piece}
    {later : List Piece} {chars behind : List Char}
    (front : Run options .root source.toList before .root (plain (piece :: later) ++ behind))
    (stands : StandsFor (plain (piece :: later) ++ behind)
      (plain (⟨piece.kind, chars⟩ :: later) ++ behind))
    (reads : Reads .root (plain (⟨piece.kind, chars⟩ :: later) ++ behind)
      (⟨piece.kind, chars⟩ :: later) target behind)
    (back : Run options (options.landing (plain (⟨piece.kind, chars⟩ :: later)) target) behind
      after (start options source).drain.stream.mode []) :
    Swaps options source (layOut 0 before.flatten)
      (piece.token (byteLength (plain before.flatten)))
      (layOut (byteLength (plain before.flatten) + byteLength piece.text) (later ++ after.flatten))
      (String.ofList chars) := by
  have hsource : source.toList =
      plain before.flatten ++ (piece.text ++ (plain later ++ behind)) := by
    simpa using front.text_eq
  have hrun := (front.replace stands).trans (.read reads back)
  obtain ⟨edited, hedited⟩ : ∃ edited : String,
      edited = String.ofList (plain before.flatten ++ (chars ++ (plain later ++ behind))) :=
    ⟨_, rfl⟩
  have htext : edited.toList =
      plain before.flatten ++ (plain (⟨piece.kind, chars⟩ :: later) ++ behind) := by simp [hedited]
  rw [← htext] at hrun
  obtain ⟨htokens, hstream⟩ := drain_start hrun
  refine ⟨edited, layOut (byteLength (plain before.flatten) + byteLength chars)
    (later ++ after.flatten), ?_, ?_, ?_, ?_⟩
  · have hreplace := Text.Span.replace?_of_append _ _ _ (String.ofList chars) hsource
    rw [String.toList_ofList] at hreplace
    rw [hedited]
    exact hreplace
  · rw [htokens]
    simp [Piece.layOut_append, Piece.layOut_cons, Piece.token, Text.utf8ByteSize_ofList]
  · rw [← Piece.layOut_shift, ← Piece.layOut_shift]
    simp [Piece.token, Text.utf8ByteSize_ofList, Nat.add_right_comm]
  · rw [hstream]
    rfl

/-- The text of a comment has no influence on the rest of the pass. -/
theorem comment_swaps (options : LexerOptions) {source : String} {before after : List Token}
    {comment : Token} (h : (start options source).drain.tokens = before ++ comment :: after)
    (hkind : comment.kind = .comment) {body : String} (hline : '\n' ∉ body.toList)
    (hclose : ')' ∉ body.toList) : Swaps options source before comment after ("#" ++ body) := by
  obtain ⟨ps, piece, qs, rfl, rfl, rfl, hat⟩ := exists_at h
  obtain ⟨earlier, later, old, behind, rfl, rfl, rfl, run, front, back⟩ := hat.comment_inv hkind
  have hbody : IsRun (fun c => c != '\n') body.toList behind := by
    refine ⟨fun c hc => ?_, run.stops⟩
    have hne : c ≠ '\n' := fun heq => hline (heq ▸ hc)
    simpa using hne
  have htext : "#" ++ body = String.ofList ('#' :: body.toList) := by
    rw [← String.toList_inj]
    simp
  rw [htext]
  have hfront : Run options .root source.toList earlier .root
      (plain [⟨.comment, '#' :: old⟩] ++ behind) := by simpa using front
  have hstands := standsFor_comment old behind hclose
  have hreads := Reads.comment hbody
  rw [← options.landing_root (plain [⟨.comment, '#' :: body.toList⟩])] at back
  exact swaps_of_reads hfront (by simpa using hstands) (by simpa using hreads) back

theorem comment_swaps_behind_open_list :
    let source := "GET / a(\n# y\n-> b"
    let tokens := (start .default source).drain.tokens
    tokens = tokens.take 7 ++ ⟨.comment, "# y", ⟨9, 12⟩⟩ :: tokens.drop 8 ∧
      Swaps .default source (tokens.take 7) ⟨.comment, "# y", ⟨9, 12⟩⟩ (tokens.drop 8)
        ("#" ++ " é(") := by
  intro source tokens
  have hend : ((start .default source).calls 12).2.next.token = none := by decide +kernel
  have htokens : tokens = tokens.take 7 ++ ⟨.comment, "# y", ⟨9, 12⟩⟩ :: tokens.drop 8 := by
    rw [show tokens = _ from (drain_of_calls hend).1]
    decide +kernel
  exact ⟨htokens, comment_swaps .default htokens rfl (by decide) (by decide)⟩

/-- The keyword of a route has no influence on the rest of the pass. -/
theorem keyword_swaps (options : LexerOptions) {source : String} {before after : List Token}
    {keyword : Token} (h : (start options source).drain.tokens = before ++ keyword :: after)
    (hkind : keyword.kind = .keyword) {k : String} (hk : k ∈ Rule.routeKeywords) :
    Swaps options source before keyword after k := by
  obtain ⟨ps, piece, qs, rfl, rfl, rfl, hat⟩ := exists_at h
  obtain ⟨earlier, later, old, w, behind, rfl, rfl, rfl, hold, run, ne, front, back⟩ :=
    hat.keyword_inv hkind
  have hline {k : String} (hk : k ∈ Rule.routeKeywords) : '\n' ∉ k.toList :=
    fun hmem => by simpa using (Rule.keyword_chars hk _ hmem).1
  have hlanding :
      options.landing (old.toList ++ w) .url = options.landing (k.toList ++ w) .url := by
    simp [LexerOptions.landing, hline hold, hline hk]
  have hfront : Run options .root source.toList earlier .root
      (plain [⟨.keyword, old.toList⟩, ⟨.whitespace, w⟩] ++ behind) := by simpa using front
  have hstands := standsFor_keyword hold hk behind run.all ne
  have hreads := Reads.keyword hk run ne
  suffices hswaps : Swaps options source _ _ _ (String.ofList k.toList) by
    rwa [String.ofList_toList] at hswaps
  exact swaps_of_reads hfront (by simpa using hstands) (by simpa using hreads)
    (by simpa [← hlanding] using back)

theorem keyword_swaps_behind_dash :
    let source := "GET / a(\n-PUT /b"
    let tokens := (start ⟨true⟩ source).drain.tokens
    tokens = tokens.take 8 ++ ⟨.keyword, "PUT", ⟨10, 13⟩⟩ :: tokens.drop 9 ∧
      Swaps ⟨true⟩ source (tokens.take 8) ⟨.keyword, "PUT", ⟨10, 13⟩⟩ (tokens.drop 9) "->" := by
  intro source tokens
  have hend : ((start ⟨true⟩ source).calls 12).2.next.token = none := by decide +kernel
  have htokens : tokens = tokens.take 8 ++ ⟨.keyword, "PUT", ⟨10, 13⟩⟩ :: tokens.drop 9 := by
    rw [show tokens = _ from (drain_of_calls hend).1]
    decide +kernel
  exact ⟨htokens, keyword_swaps ⟨true⟩ htokens rfl (by decide)⟩

end Stream

end RouteHighlight
