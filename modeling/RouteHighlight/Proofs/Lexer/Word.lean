import RouteHighlight.Proofs.Lexer.Origin
import RouteHighlight.Proofs.Lexer.Reset

/-!
# Where keywords stand

The rule for keywords asks for white space behind the keyword and for nothing before it.  Where no
rule matches, one character is taken and the rules are tried again behind it, so a keyword is also
read off the end of a longer word.  The main statement says exactly when a keyword stands behind
white space, and which words are plain text.
-/

namespace RouteHighlight

open Text (IsRun isBlank byteLength)
open Piece (plain layOut)
open Rule (OpensRoute)

variable {options : LexerOptions} {mode target final : Mode} {text rest : List Char}
  {pieces : List Piece} {chunks : List (List Piece)}

/-- Nothing but white space can stand right before byte `p` of a source. -/
def Text.BehindBlank (source : String) (p : Nat) : Prop :=
  ∃ front behind, source.toList = front ++ behind ∧ byteLength front = p ∧
    ∀ c ∈ front.getLast?, isBlank c = true

theorem Text.behindBlank_iff {source : String} {front behind : List Char}
    (h : source.toList = front ++ behind) :
    BehindBlank source (byteLength front) ↔ ∀ c ∈ front.getLast?, isBlank c = true := by
  constructor
  · rintro ⟨front', behind', h', hlength, hlast⟩
    obtain ⟨rfl, -⟩ := append_inj_of_byteLength (h'.symm.trans h) hlength
    exact hlast
  · intro hlast
    exact ⟨front, behind, h, rfl, hlast⟩

/-! ## Before a keyword -/

theorem Run.eq_nil_or_snoc (h : Run options mode text chunks final rest) :
    chunks = [] ∨ ∃ init pieces mid behind target, chunks = init ++ [pieces] ∧
      Reads mid behind pieces target rest ∧ final = options.landing (plain pieces) target := by
  induction h with
  | done => exact .inl rfl
  | @read mode target final text mid rest pieces chunks reads run ih =>
      right
      rcases ih with rfl | ⟨init, last, lastMode, behind, lastTarget, rfl, hlast, hfinal⟩
      · cases run
        exact ⟨[], pieces, mode, text, target, rfl, reads, rfl⟩
      · exact ⟨pieces :: init, last, lastMode, behind, lastTarget, rfl, hlast, hfinal⟩

theorem LexerOptions.newline_mem_of_landing (hroot : options.landing text target = .root)
    (htarget : target ≠ .root) : '\n' ∈ text := by
  refine Decidable.byContradiction fun hline => htarget ?_
  rwa [options.landing_of_inLine hline] at hroot

private theorem last_blank {w : List Char} (hw : ∀ c ∈ w, isBlank c = true) (hne : w ≠ []) :
    ∃ d ∈ w.getLast?, isBlank d = true :=
  ⟨w.getLast hne, List.getLast?_eq_some_getLast hne, hw _ (List.getLast_mem hne)⟩

/-- A scan that leads to root mode, before a character that is not white space, ends with white
space or with plain text. -/
theorem Reads.last_piece {c : Char} (h : Reads mode text pieces target (c :: rest))
    (hroot : options.landing (plain pieces) target = .root) (hc : isBlank c = false) :
    ∃ init piece, pieces = init ++ [piece] ∧
      ∃ d ∈ piece.text.getLast?, isBlank d = true ↔ piece.kind ≠ .text := by
  have hnewline := options.newline_mem_of_landing hroot
  cases h with
  | blank run ne =>
      obtain ⟨d, hd, hblank⟩ := last_blank run.all ne
      exact ⟨[], _, rfl, d, hd, by simp [hblank]⟩
  | comment run =>
      have hend : c = '\n' := by simpa using run.stops
      simp [hend] at hc
  | keyword mem run ne =>
      obtain ⟨d, hd, hblank⟩ := last_blank run.all ne
      exact ⟨[_], _, rfl, d, hd, by simp [hblank]⟩
  | @rootOther d _ blank hash opens => exact ⟨[], _, rfl, d, rfl, by simp [blank]⟩
  | urlEnd run ne =>
      obtain ⟨d, hd, hblank⟩ := last_blank run.all ne
      exact ⟨[], _, rfl, d, hd, by simp [hblank]⟩
  | pathChar blank colon =>
      obtain rfl : '\n' = _ := by simpa using hnewline
      simp at blank
  | pathParam run ne =>
      have hline := Text.newline_notMem_of_isWord run.all
      simp [hline] at hnewline
  | colon stops => simp at hnewline
  | segment word ne =>
      have hline := Text.newline_notMem_of_isWord word
      simp [hline] at hnewline
  | method run ne dot =>
      have hline := Text.newline_notMem_of_isWord run.all
      simp [hline] at hnewline
  | parameters ne close => exact ⟨[_, _], _, rfl, ')', rfl, by decide⟩
  | newline => exact ⟨[], _, rfl, '\n', rfl, by simp⟩
  | objectOther word newline opens => exact absurd (by simpa using hnewline) newline.symm

theorem Run.last_blank_iff {c : Char} (h : Run options .root text chunks .root (c :: rest))
    (hc : isBlank c = false) :
    (∀ d ∈ (plain chunks.flatten).getLast?, isBlank d = true) ↔
      ∀ last ∈ (layOut 0 chunks.flatten).getLast?, last.kind ≠ .text := by
  rcases h.eq_nil_or_snoc with rfl | ⟨init, pieces, mid, behind, target, rfl, reads, hroot⟩
  · simp
  · obtain ⟨front, piece, rfl, d, hd, hiff⟩ := reads.last_piece hroot.symm hc
    have hplain : (plain (init ++ [front ++ [piece]]).flatten).getLast? = some d := by
      simp [Option.mem_def.1 hd]
    have htokens : (layOut 0 (init ++ [front ++ [piece]]).flatten).getLast? =
        some (piece.token (byteLength (plain init.flatten) + byteLength (plain front))) := by
      simp [← List.append_assoc, Piece.layOut_append, Piece.layOut_cons]
    rw [hplain, htokens]
    simpa [Piece.token] using hiff

/-! ## Words in root mode -/

/-- The calls for the characters of a word hand out each of them as plain text, and leave the
stream in root mode behind the word. -/
def Stream.ReadsAsText (options : LexerOptions) (position : Nat) (word rest : List Char) : Prop :=
  (poised options position .root (word ++ rest)).calls word.length =
    (layOut position (word.map fun c => ⟨.text, [c]⟩),
      poised options (position + byteLength word) .root rest)

namespace Stream

variable {word : List Char} {d : Char}

theorem readsAsText_cons (position : Nat)
    (h : Reads .root (d :: (word ++ rest)) [⟨.text, [d]⟩] .root (word ++ rest)) :
    ReadsAsText options position (d :: word) rest ↔
      ReadsAsText options (position + d.utf8Size) word rest := by
  have hcall : (poised options position .root (d :: (word ++ rest))).calls 1 =
      (layOut position [⟨.text, [d]⟩],
        poised options (position + d.utf8Size) (options.landing [d] .root) (word ++ rest)) := by
    simpa using calls_of_reads h position
  rw [options.landing_root] at hcall
  unfold ReadsAsText
  rw [List.length_cons, Nat.add_comm word.length 1, calls_add, List.cons_append, hcall]
  simp [Piece.layOut_cons, Nat.add_assoc, Prod.ext_iff]

theorem not_readsAsText_cons (position : Nat) {piece : Piece} {more : List Piece}
    (h : Reads .root (d :: (word ++ rest)) (piece :: more) target text)
    (hkind : piece.kind ≠ .text) : ¬ ReadsAsText options position (d :: word) rest := by
  intro htext
  have htoken : (poised options position .root (d :: (word ++ rest))).next.token =
      some (piece.token position) := (next_of_reads h position).1
  unfold ReadsAsText at htext
  rw [List.length_cons, calls_succ, List.cons_append, htoken] at htext
  have hfirst := congrArg List.head? (congrArg Prod.fst htext)
  have hkinds := congrArg (Option.map Token.kind) hfirst
  exact hkind (by simpa [Piece.layOut_cons, Piece.token] using hkinds)

theorem opensRoute_word_iff {c : Char} (hword : ∀ c ∈ word, isBlank c = false)
    (hc : isBlank c = true) :
    OpensRoute (word ++ c :: rest) ↔ ∃ k ∈ Rule.routeKeywords, k.toList = word := by
  constructor
  · rintro ⟨k, hk, d, behind, hd, heq⟩
    have hrun : IsRun (fun x => !isBlank x) word (c :: rest) :=
      ⟨by simpa using hword, by simp [hc]⟩
    exact ⟨k, hk, ((hrun.unique (Rule.keyword_isRun hk hd) heq).1).symm⟩
  · rintro ⟨k, hk, rfl⟩
    exact ⟨k, hk, c, rest, hc, rfl⟩

/-- A word is plain text unless a comment begins in it or a keyword ends it. -/
theorem readsAsText_iff {c : Char} (hword : ∀ c ∈ word, isBlank c = false)
    (hc : isBlank c = true) (position : Nat) :
    ReadsAsText options position word (c :: rest) ↔
      '#' ∉ word ∧ ∀ k ∈ Rule.routeKeywords, ¬ k.toList <:+ word := by
  induction word generalizing position with
  | nil =>
      have hnone : ∀ k ∈ Rule.routeKeywords, ¬ k.toList <:+ [] := by
        intro k hk hsuffix
        exact Rule.keyword_ne_nil hk (List.suffix_nil.1 hsuffix)
      simpa [ReadsAsText, calls] using hnone
  | cons d word ih =>
      have htail : ∀ c ∈ word, isBlank c = false := fun x hx => hword x (by simp [hx])
      have hd : isBlank d = false := hword d (by simp)
      have hopensIff : OpensRoute (d :: (word ++ c :: rest)) ↔
          ∃ k ∈ Rule.routeKeywords, k.toList = d :: word := opensRoute_word_iff hword hc
      simp only [List.suffix_cons_iff, List.mem_cons, not_or]
      by_cases hhash : d = '#'
      · subst hhash
        obtain ⟨pieces, target, behind, reads⟩ :=
          exists_reads .root (List.cons_ne_nil '#' (word ++ c :: rest))
        obtain ⟨body, rfl⟩ := reads.comment_inv
        simp [not_readsAsText_cons position reads]
      · by_cases hopens : OpensRoute (d :: (word ++ c :: rest))
        · obtain ⟨k, hk, hkeyword⟩ := hopensIff.1 hopens
          obtain ⟨pieces, target, behind, reads⟩ :=
            exists_reads .root (List.cons_ne_nil d (word ++ c :: rest))
          have hread := reads
          rw [← List.cons_append, ← hkeyword] at hread
          obtain ⟨w, rfl⟩ := hread.keyword_inv hk hc
          have hnot : ¬ ReadsAsText options position (d :: word) (c :: rest) :=
            not_readsAsText_cons position reads (by simp)
          refine ⟨fun htext => absurd htext hnot, fun hclean => ?_⟩
          exact absurd hkeyword (hclean.2 k hk).1
        · rw [readsAsText_cons position (.rootOther hd hhash hopens), ih htail]
          have hnone : ∀ k ∈ Rule.routeKeywords, k.toList ≠ d :: word := by
            intro k hk heq
            exact hopens (hopensIff.2 ⟨k, hk, heq⟩)
          constructor
          · rintro ⟨hmem, hsuffix⟩
            exact ⟨⟨Ne.symm hhash, hmem⟩, fun k hk => ⟨hnone k hk, hsuffix k hk⟩⟩
          · rintro ⟨⟨-, hmem⟩, hsuffix⟩
            exact ⟨hmem, fun k hk => (hsuffix k hk).2⟩

/-- A keyword stands at the beginning or behind white space exactly if no plain text is right
before it; and a word in root mode, with white space behind it, is plain text exactly if no
comment begins in it and no keyword ends it. -/
theorem drain_keywords (options : LexerOptions) (source : String) :
    (∀ before keyword after,
      (start options source).drain.tokens = before ++ keyword :: after →
      keyword.kind = .keyword →
      (Text.BehindBlank source keyword.span.start ↔
        ∀ last ∈ before.getLast?, last.kind ≠ .text)) ∧
    ∀ position word c rest, (∀ d ∈ word, isBlank d = false) → isBlank c = true →
      (ReadsAsText options position word (c :: rest) ↔
        '#' ∉ word ∧ ∀ k ∈ Rule.routeKeywords, ¬ k.toList <:+ word) := by
  constructor
  · intro before keyword after htokens hkind
    obtain ⟨ps, piece, qs, rfl, rfl, rfl, hat⟩ := exists_at htokens
    obtain ⟨chunks, later, k, w, behind, rfl, rfl, -, hk, -, -, front, -⟩ := hat.keyword_inv hkind
    obtain ⟨c, cs, hcons⟩ := List.exists_cons_of_ne_nil (Rule.keyword_ne_nil hk)
    have hc := (Rule.keyword_chars hk c (by simp [hcons])).1
    have htext := front.text_eq
    rw [hcons] at front
    exact (Text.behindBlank_iff htext).trans (front.last_blank_iff hc)
  · intro position word c rest hword hc
    exact readsAsText_iff hword hc position

/-- A keyword is read off the end of a longer word. -/
theorem keyword_ends_word :
    "FORGET" ∉ Rule.routeKeywords ∧
      ⟨.keyword, "GET", ⟨3, 6⟩⟩ ∈ (start .default "FORGET /x").drain.tokens ∧
      ¬ Text.BehindBlank "FORGET /x" 3 ∧
      ((start .default "FORGET /x").calls 4).2.mode = .url := by
  have hend : ((start .default "FORGET /x").calls 7).2.next.token = none := by decide +kernel
  refine ⟨by decide, ?_, ?_, by decide +kernel⟩
  · rw [(drain_of_calls hend).1]
    decide +kernel
  · have htext : "FORGET /x".toList = "FOR".toList ++ "GET /x".toList := by decide
    have hplace : byteLength "FOR".toList = 3 := by decide
    rw [← hplace, Text.behindBlank_iff htext]
    intro hlast
    have hblank : isBlank 'R' = true := hlast 'R' (by decide)
    exact absurd hblank (by decide)

end Stream

end RouteHighlight
