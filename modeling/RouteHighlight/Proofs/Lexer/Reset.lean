import RouteHighlight.Proofs.Lexer.LineMode

/-!
# No line is lost when newlines reset the mode

A line that opens with a keyword or a comment is read as such unless a scan reaches over the
place where it opens.  A scan that does has white space with something else behind it, and only
comments and parameter lists do; a comment ends with its line, so it is a parameter list.
-/

namespace RouteHighlight

open Text (Stops isBlank isWord byteLength)
open Piece (plain layOut)

variable {options : LexerOptions} {mode target final : Mode} {text rest : List Char}
  {pieces : List Piece} {chunks : List (List Piece)}

/-! ## A place in a run -/

/-- A place in a text lies between two scans of a run, or within one of them. -/
inductive Run.Cut (options : LexerOptions) (mode : Mode) (text : List Char) :
    List (List Piece) → List Char → List Char → Prop where
  | between {before after : List (List Piece)} {mid final : Mode} {behind : List Char}
      (left : Run options mode text before mid behind)
      (right : Run options mid behind after final []) :
      Cut options mode text (before ++ after) (plain before.flatten) behind
  | within {before : List (List Piece)} (after : List (List Piece)) {pieces : List Piece}
      {mid target : Mode} {front behind rest : List Char}
      (run : Run options mode text before mid (front ++ (behind ++ rest)))
      (reads : Reads mid (front ++ (behind ++ rest)) pieces target rest)
      (plain_eq : plain pieces = front ++ behind) (front_ne : front ≠ [])
      (behind_ne : behind ≠ []) :
      Cut options mode text (before ++ pieces :: after) (plain before.flatten ++ front)
        (behind ++ rest)

theorem Run.Cut.cons {mid : List Char} {front behind : List Char}
    (reads : Reads mode text pieces target mid)
    (h : Cut options (options.landing (plain pieces) target) mid chunks front behind) :
    Cut options mode text (pieces :: chunks) (plain pieces ++ front) behind := by
  cases h with
  | between left right =>
      have hleft := Run.read reads left
      simpa using Cut.between hleft right
  | within after run inner plain_eq front_ne behind_ne =>
      have hrun := Run.read reads run
      simpa using Cut.within after hrun inner plain_eq front_ne behind_ne

theorem Run.cut (h : Run options mode text chunks final []) {front behind : List Char}
    (htext : text = front ++ behind) : Cut options mode text chunks front behind := by
  generalize hrest : [] = rest at h
  induction h generalizing front with
  | done =>
      subst hrest
      obtain ⟨rfl, rfl⟩ := List.append_eq_nil_iff.1 htext.symm
      exact .between .done .done
  | @read mode target final text mid rest pieces chunks reads run ih =>
      subst hrest
      by_cases hfront : front = []
      · subst hfront
        rw [List.nil_append] at htext
        subst htext
        exact .between .done (.read reads run)
      · rw [reads.text_eq] at htext
        rcases List.append_eq_append_iff.1 htext with
          ⟨tail, hfront', hmid⟩ | ⟨tail, hpieces, hbehind⟩
        · rw [hfront']
          exact (ih hmid rfl).cons reads
        · by_cases htail : tail = []
          · subst htail
            rw [List.append_nil] at hpieces
            rw [List.nil_append] at hbehind
            subst hbehind
            have hcut := (Cut.between .done run).cons reads
            simpa [hpieces] using hcut
          · obtain rfl : text = front ++ (tail ++ mid) := by
              rw [reads.text_eq, hpieces, List.append_assoc]
            rw [hbehind]
            exact .within _ .done reads hpieces hfront htail

/-! ## White space within a scan -/

/-- Nothing but white space stands behind white space. -/
def BlanksLast (text : List Char) : Prop :=
  text.Pairwise fun c d => isBlank c = true → isBlank d = true

theorem blanksLast_append {xs ys : List Char} (hxs : ∀ c ∈ xs, isBlank c = false)
    (hys : ∀ c ∈ ys, isBlank c = true) : BlanksLast (xs ++ ys) := by
  rw [BlanksLast, List.pairwise_append]
  refine ⟨?_, ?_, ?_⟩
  · apply List.pairwise_of_forall_mem_list
    intro c hc d _ hblank
    rw [hxs c hc] at hblank
    contradiction
  · apply List.pairwise_of_forall_mem_list
    intro c _ d hd _
    exact hys d hd
  · intro c _ d hd _
    exact hys d hd

theorem blanksLast_of_blank {w : List Char} (hw : ∀ c ∈ w, isBlank c = true) : BlanksLast w := by
  rw [← List.nil_append w]
  exact blanksLast_append (by simp) hw

theorem blanksLast_of_not_blank {w : List Char} (hw : ∀ c ∈ w, isBlank c = false) :
    BlanksLast w := by
  rw [← List.append_nil w]
  exact blanksLast_append hw (by simp)

theorem BlanksLast.isBlank_behind {xs ys : List Char} (h : BlanksLast (xs ++ ys)) {c d : Char}
    (hc : c ∈ xs) (hblank : isBlank c = true) (hd : d ∈ ys) : isBlank d = true := by
  rw [BlanksLast, List.pairwise_append] at h
  exact h.2.2 c hc d hd hblank

/-- White space has something else behind it within one scan only in a comment and in a
parameter list. -/
theorem Reads.blanksLast_or (h : Reads mode text pieces target rest) :
    BlanksLast (plain pieces) ∨
      (∃ body, '\n' ∉ body ∧ pieces = [⟨.comment, '#' :: body⟩]) ∨
      ∃ p, pieces = [⟨.text, ['(']⟩, ⟨.variable, p⟩, ⟨.text, [')']⟩] := by
  cases h with
  | comment run => exact .inr (.inl ⟨_, Text.newline_notMem_of_inLine run.all, rfl⟩)
  | parameters ne close => exact .inr (.inr ⟨_, rfl⟩)
  | keyword mem run ne =>
      left
      simpa using blanksLast_append (fun c hc => (Rule.keyword_chars mem c hc).1) run.all
  | blank run ne =>
      left
      simpa using blanksLast_of_blank run.all
  | urlEnd run ne =>
      left
      simpa using blanksLast_of_blank run.all
  | @pathParam w r run ne =>
      left
      have hword : ∀ c ∈ ':' :: w, isBlank c = false := by
        simpa using fun c hc => Text.isBlank_of_isWord (run.all c hc)
      simpa using blanksLast_of_not_blank hword
  | @segment w r word ne =>
      left
      have hword : ∀ c ∈ w ++ ['.'], isBlank c = false := by
        intro c hc
        rcases List.mem_append.1 hc with hc | hc
        · exact Text.isBlank_of_isWord (word c hc)
        · rw [List.mem_singleton.1 hc]
          decide
      simpa using blanksLast_of_not_blank hword
  | method run ne dot =>
      left
      simpa using blanksLast_of_not_blank fun c hc => Text.isBlank_of_isWord (run.all c hc)
  | _ =>
      left
      simp [BlanksLast]

/-! ## The place where a line opens -/

/-- Byte `p` is the first of a line that is not white space; the line begins at byte `line`, and
`rest` is the text from byte `p` on. -/
def OpensLine (source : List Char) (line p : Nat) (rest : List Char) : Prop :=
  ∃ before gap, source = before ++ (gap ++ rest) ∧ EndsLine before ∧
    (∀ c ∈ gap, isBlank c = true ∧ c ≠ '\n') ∧ Stops isBlank rest ∧
    byteLength before = line ∧ byteLength (before ++ gap) = p

/-- The token is a variable that begins before a line and goes on beyond byte `p` of it. -/
structure Token.Hides (token : Token) (line p : Nat) : Prop where
  kind_eq : token.kind = .variable
  newline_mem : '\n' ∈ token.text.toList
  start_lt : token.span.start < line
  lt_stop : p < token.span.stop

private theorem isBlank_of_mem_getLast? {before gap : List Char} (hends : EndsLine before)
    (hgap : ∀ c ∈ gap, isBlank c = true) :
    ∀ c ∈ (before ++ gap).getLast?, isBlank c = true := by
  intro c hc
  rw [List.getLast?_append] at hc
  cases hlast : gap.getLast? with
  | some d =>
      rw [hlast, Option.some_or, Option.mem_some] at hc
      exact hgap c (List.mem_of_getLast? (hlast.trans (by rw [hc])))
  | none =>
      rw [hlast, Option.none_or] at hc
      rw [hends c hc]
      decide

private theorem exists_line_of_not_blank {before gap front tail : List Char} {c : Char}
    (hends : EndsLine before) (hgap : ∀ c ∈ gap, isBlank c = true) (hc : isBlank c = false)
    (heq : before ++ gap = front ++ c :: tail) :
    ∃ line, before = front ++ c :: line ∧ tail = line ++ gap ∧ '\n' ∈ line := by
  have hnot : c ∉ gap := by
    intro hmem
    rw [hgap c hmem] at hc
    contradiction
  rcases List.append_eq_append_iff.1 heq with ⟨more, -, hmore⟩ | ⟨more, hbefore, hmore⟩
  · exact absurd (by simp [hmore]) hnot
  · cases more with
    | nil => exact absurd (by simp [← show c :: tail = gap from hmore]) hnot
    | cons d line =>
        obtain ⟨rfl, htail⟩ := List.cons.inj hmore
        refine ⟨line, hbefore, htail, ?_⟩
        rw [hbefore] at hends
        have hmem := hends.behind.mem_newline (by simp)
        refine (List.mem_cons.1 hmem).resolve_left ?_
        rintro rfl
        contradiction

private theorem exists_append_of_concat {xs front behind : List Char} {c : Char}
    (heq : xs ++ [c] = front ++ behind) (hne : behind ≠ []) (hlast : behind ≠ [c]) :
    ∃ more, xs = front ++ more ∧ more ≠ [] := by
  rcases List.append_eq_append_iff.1 heq with ⟨more, -, hmore⟩ | ⟨more, hxs, hmore⟩
  · cases more with
    | nil => exact absurd hmore.symm hlast
    | cons d more =>
        have hnil : more ++ behind = [] := ((List.cons.inj hmore).2).symm
        exact absurd (List.append_eq_nil_iff.1 hnil).2 hne
  · refine ⟨more, hxs, ?_⟩
    rintro rfl
    exact hlast hmore

section

variable {before gap front behind : List Char}

private theorem newline_mem_of_comment {body : List Char} (hends : EndsLine before)
    (hgap : ∀ c ∈ gap, isBlank c = true) (hfront : before ++ gap = text ++ front)
    (hne : front ≠ []) (hbody : '#' :: body = front ++ behind) : '\n' ∈ body := by
  obtain ⟨c, tail, rfl⟩ := List.exists_cons_of_ne_nil hne
  obtain ⟨rfl, rfl⟩ := List.cons.inj hbody
  obtain ⟨line, -, rfl, hmem⟩ := exists_line_of_not_blank hends hgap (by simp) hfront
  simp [hmem]

private theorem hides_of_parameters {p : List Char} (hends : EndsLine before)
    (hgap : ∀ c ∈ gap, isBlank c = true) (hfront : before ++ gap = text ++ front)
    (hne : front ≠ []) (hlist : '(' :: (p ++ [')']) = front ++ behind) (hbehind : behind ≠ [])
    (hclose : behind ≠ [')']) :
    (Piece.token ⟨.variable, p⟩ (byteLength (text ++ ['(']))).Hides (byteLength before)
      (byteLength (before ++ gap)) := by
  obtain ⟨c, tail, rfl⟩ := List.exists_cons_of_ne_nil hne
  obtain ⟨rfl, hp⟩ := List.cons.inj hlist
  obtain ⟨line, rfl, rfl, hmem⟩ := exists_line_of_not_blank hends hgap (by decide) hfront
  obtain ⟨more, rfl, hmore⟩ := exists_append_of_concat hp hbehind hclose
  have hline := Text.byteLength_pos (List.ne_nil_of_mem hmem)
  have hpos := Text.byteLength_pos hmore
  refine ⟨rfl, by simp [Piece.token, hmem], ?_, ?_⟩
  · simp [Piece.token]
    omega
  · simp [Piece.token]
    omega

end

/-- Where a line opens, a scan begins in root mode, or a parameter list hides the place. -/
private theorem at_line {source : List Char} {line p : Nat} {c : Char} {behind : List Char}
    (hreset : options.resetOnNewline = true) (hrun : Run options .root source chunks final [])
    (h : OpensLine source line p (c :: behind)) (hclose : c ≠ ')') :
    (∃ before after final, chunks = before ++ after ∧ byteLength (plain before.flatten) = p ∧
        Run options .root (c :: behind) after final []) ∨
      ∃ token ∈ layOut 0 chunks.flatten, token.Hides line p := by
  obtain ⟨before, gap, hsource, hends, hgap, hstops, rfl, rfl⟩ := h
  have hblank : ∀ c ∈ gap, isBlank c = true := fun c hc => (hgap c hc).1
  have hc : isBlank c = false := by simpa using hstops
  have hcut := hrun.cut (hsource.trans (List.append_assoc ..).symm)
  generalize hfront : before ++ gap = front at hcut
  generalize hrest : c :: behind = rest at hcut
  cases hcut with
  | between left right =>
      have hmode := left.final_eq_root hreset hfront.symm hends hblank fun _ => rfl
      subst hmode
      left
      exact ⟨_, _, _, rfl, rfl, right⟩
  | @within earlier after pieces mid target front inner rest run reads plain_eq front_ne inner_ne =>
      right
      obtain ⟨d, tail, rfl⟩ := List.exists_cons_of_ne_nil inner_ne
      obtain ⟨rfl, -⟩ := List.cons.inj hrest
      rcases reads.blanksLast_or with hlast | ⟨body, hbody, rfl⟩ | ⟨p, rfl⟩
      · -- the last character before the place is white space, and `c` is not
        rw [plain_eq] at hlast
        have hblankbefore := isBlank_of_mem_getLast? hends hblank (front.getLast front_ne) (by
          rw [hfront, List.getLast?_append, List.getLast?_eq_some_getLast front_ne]
          rfl)
        have hinner := hlast.isBlank_behind (List.getLast_mem front_ne) hblankbefore
          (List.mem_cons_self (a := c) (l := tail))
        rw [hc] at hinner
        contradiction
      · have hcomment : '#' :: body = front ++ c :: tail := by simpa using plain_eq
        exact absurd (newline_mem_of_comment hends hblank hfront front_ne hcomment) hbody
      · have hlist : '(' :: (p ++ [')']) = front ++ c :: tail := by simpa using plain_eq
        have hshort : c :: tail ≠ [')'] := fun heq => hclose (List.cons.inj heq).1
        have hhides := hides_of_parameters hends hblank hfront front_ne hlist (by simp) hshort
        have hmem := Piece.token_mem_layOut 0 (earlier.flatten ++ [⟨.text, ['(']⟩])
          (⟨.text, [')']⟩ :: after.flatten) ⟨.variable, p⟩
        rw [hfront] at hhides
        refine ⟨_, ?_, hhides⟩
        simpa using hmem

/-! ## What is read there -/

private theorem absurd_blank {w r tail : List Char} {c : Char} (hc : isBlank c = false)
    (hw : ∀ c ∈ w, isBlank c = true) (hne : w ≠ []) (heq : c :: tail = w ++ r) : False := by
  obtain ⟨d, ds, rfl⟩ := List.exists_cons_of_ne_nil hne
  obtain ⟨rfl, -⟩ := List.cons.inj heq
  rw [hw c (by simp)] at hc
  contradiction

theorem Reads.keyword_inv {k : String} {c : Char} {more : List Char} (hk : k ∈ Rule.routeKeywords)
    (hc : isBlank c = true) (h : Reads .root (k.toList ++ c :: more) pieces target rest) :
    ∃ w, pieces = [⟨.keyword, k.toList⟩, ⟨.whitespace, w⟩] := by
  obtain ⟨e, es, hcons⟩ := List.exists_cons_of_ne_nil (Rule.keyword_ne_nil hk)
  obtain ⟨hblank, hhash, -⟩ := Rule.keyword_chars hk e (by simp [hcons])
  generalize heq : k.toList ++ c :: more = text at h
  cases h with
  | blank run ne =>
      rw [hcons] at heq
      exact (absurd_blank hblank run.all ne heq).elim
  | comment run =>
      rw [hcons] at heq
      exact absurd (List.cons.inj heq).1 hhash
  | @keyword k' w r mem run ne =>
      obtain ⟨d, ds, rfl⟩ := List.exists_cons_of_ne_nil ne
      obtain rfl := Rule.keyword_unique hk mem hc (run.all d (by simp)) heq
      exact ⟨_, rfl⟩
  | rootOther blank hash opens => exact absurd ⟨k, hk, c, more, hc, heq.symm⟩ opens

theorem Reads.comment_inv {more : List Char} (h : Reads .root ('#' :: more) pieces target rest) :
    ∃ body, pieces = [⟨.comment, '#' :: body⟩] := by
  generalize heq : '#' :: more = text at h
  cases h with
  | blank run ne => exact (absurd_blank (by simp) run.all ne heq).elim
  | comment run => exact ⟨_, rfl⟩
  | @keyword k w r mem run ne =>
      obtain ⟨e, es, hcons⟩ := List.exists_cons_of_ne_nil (Rule.keyword_ne_nil mem)
      rw [hcons] at heq
      exact absurd (List.cons.inj heq).1.symm (Rule.keyword_chars mem e (by simp [hcons])).2.1
  | rootOther blank hash opens => exact absurd (List.cons.inj heq).1.symm hash

private theorem first_piece_mem_layOut (before : List (List Piece))
    {after : List (List Piece)} (hne : text ≠ [])
    (hrun : Run options .root text after final []) :
    ∃ pieces target rest, Reads .root text pieces target rest ∧
      ∀ piece more, pieces = piece :: more →
        piece.token (byteLength (plain before.flatten)) ∈ layOut 0 (before ++ after).flatten := by
  cases hrun with
  | done => contradiction
  | @read _ target _ _ mid _ pieces chunks reads run =>
      refine ⟨pieces, target, mid, reads, ?_⟩
      rintro piece more rfl
      have hmem := Piece.token_mem_layOut 0 before.flatten (more ++ chunks.flatten) piece
      simpa using hmem

/-- When newlines reset the mode, a line that opens with a keyword gives that keyword, and one
that opens with `#` a comment, unless a parameter list of an earlier line hides it. -/
theorem opened_line_read (options : LexerOptions) {source : String} {line p : Nat}
    {rest : List Char} (hreset : options.resetOnNewline = true)
    (h : OpensLine source.toList line p rest) :
    let tokens := (Stream.start options source).drain.tokens
    (∀ k ∈ Rule.routeKeywords, ∀ c more, isBlank c = true → rest = k.toList ++ c :: more →
        (∃ token ∈ tokens, token.kind = .keyword ∧ token.text = k ∧ token.span.start = p) ∨
          ∃ token ∈ tokens, token.Hides line p) ∧
      (∀ more, rest = '#' :: more →
        (∃ token ∈ tokens, token.kind = .comment ∧ token.span.start = p) ∨
          ∃ token ∈ tokens, token.Hides line p) := by
  obtain ⟨chunks, final, hrun⟩ := exists_run options .root source.toList
  rw [(Stream.drain_start hrun).1]
  constructor
  · rintro k hk c more hc rfl
    obtain ⟨e, es, hcons⟩ := List.exists_cons_of_ne_nil (Rule.keyword_ne_nil hk)
    have hclose := (Rule.keyword_chars hk e (by simp [hcons])).2.2
    have hrest : k.toList ++ c :: more = e :: (es ++ c :: more) := by rw [hcons, List.cons_append]
    rw [hrest] at h
    refine (at_line hreset hrun h hclose).imp_left ?_
    rintro ⟨before, after, final, rfl, hp, hafter⟩
    rw [← hrest] at hafter
    obtain ⟨pieces, target, rest, reads, hmem⟩ :=
      first_piece_mem_layOut before (by simp) hafter
    obtain ⟨w, hpieces⟩ := reads.keyword_inv hk hc
    exact ⟨_, hmem _ _ hpieces, rfl, String.ofList_toList, hp⟩
  · rintro more rfl
    refine (at_line hreset hrun h (by decide)).imp_left ?_
    rintro ⟨before, after, final, rfl, hp, hafter⟩
    obtain ⟨pieces, target, rest, reads, hmem⟩ :=
      first_piece_mem_layOut before (by simp) hafter
    obtain ⟨body, hpieces⟩ := reads.comment_inv
    exact ⟨_, hmem _ _ hpieces, rfl, hp⟩

theorem opened_line_read_post :
    OpensLine "GET /x\n POST /y".toList 7 8 "POST /y".toList ∧
      ((∃ token ∈ (Stream.start ⟨true⟩ "GET /x\n POST /y").drain.tokens,
          token.kind = .keyword ∧ token.text = "POST" ∧ token.span.start = 8) ∨
        ∃ token ∈ (Stream.start ⟨true⟩ "GET /x\n POST /y").drain.tokens, token.Hides 7 8) := by
  have hopens : OpensLine "GET /x\n POST /y".toList 7 8 "POST /y".toList := by
    refine ⟨"GET /x\n".toList, [' '], rfl, by simp [EndsLine], ?_, ?_, by decide, by decide⟩
    · intro c hc
      rw [List.mem_singleton.1 hc]
      decide
    · exact Text.stops_cons.2 (by decide)
  have hread := opened_line_read ⟨true⟩ rfl hopens
  exact ⟨hopens, hread.1 "POST" (by decide) ' ' "/y".toList (by decide) rfl⟩

end RouteHighlight
