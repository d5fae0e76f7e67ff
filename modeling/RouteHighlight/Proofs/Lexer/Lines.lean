import RouteHighlight.Proofs.Lexer.LineMode

/-!
# Line by line

Where a text ends with a newline and another begins without white space, every scan of the first
stops at the boundary on its own.  The one exception is a parameter list, which looks for its
closing parenthesis across newlines: the first text has to close its own, or the second must not
offer one.
-/

namespace RouteHighlight

open Text (IsRun Stops isBlank isWord byteLength)
open Piece (plain layOut)
open Rule (OpensRoute)

variable {options : LexerOptions} {mode target final : Mode} {text rest more : List Char}
  {pieces : List Piece} {chunks : List (List Piece)}

/-- A parenthesis that opens in the text is closed there, or finds none behind the text. -/
def ClosesLists (text more : List Char) : Prop :=
  ')' ∉ more ∨ ∀ behind, '(' :: behind <:+ text → ')' ∈ behind

theorem ClosesLists.behind {front : List Char} (h : ClosesLists (front ++ rest) more) :
    ClosesLists rest more := by
  apply h.imp_right
  intro hclose behind hsuffix
  exact hclose behind (hsuffix.trans (List.suffix_append _ _))

/-! ## One scan -/

theorem not_opensRoute_append (h : ¬ OpensRoute text) (hne : text ≠ []) (hends : EndsLine text) :
    ¬ OpensRoute (text ++ more) := by
  rintro ⟨k, hk, d, behind, hd, heq⟩
  -- a keyword holds no newline, so it does not reach the end of the text
  have hshort : ∀ tail, k.toList ≠ text ++ tail := by
    intro tail htail
    have hlast := hends (text.getLast hne) (List.getLast?_eq_some_getLast hne)
    have hmem : '\n' ∈ k.toList := by
      rw [htail, ← hlast]
      exact List.mem_append_left _ (List.getLast_mem hne)
    exact absurd (Rule.keyword_chars hk _ hmem).1 (by decide)
  rcases List.append_eq_append_iff.1 heq with ⟨tail, htail, -⟩ | ⟨tail, htail, hbehind⟩
  · exact hshort tail htail
  · cases tail with
    | nil => exact hshort [] (by simpa using htail.symm)
    | cons c tail =>
        obtain ⟨rfl, -⟩ := List.cons.inj hbehind
        exact h ⟨k, hk, d, tail, hd, htail⟩

theorem not_opensList_append {c : Char} (h : ¬ OpensList (c :: rest))
    (hclose : ClosesLists (c :: rest) more) : ¬ OpensList (c :: rest ++ more) := by
  rintro ⟨p, behind, hp, hnot, heq⟩
  rw [List.cons_append] at heq
  obtain ⟨rfl, htail⟩ := List.cons.inj heq
  -- the closing parenthesis is in the text
  have hmem : ')' ∈ rest := by
    rcases hclose with hmore | hclosed
    · have : ')' ∈ rest ++ more := by simp [htail]
      exact (List.mem_append.1 this).resolve_right hmore
    · exact hclosed rest (List.suffix_refl _)
  rcases List.append_eq_append_iff.1 htail with ⟨tail, hp', -⟩ | ⟨tail, hrest, hbehind⟩
  · exact hnot (by simp [hp', hmem])
  · cases tail with
    | nil => exact hnot (by simpa [hrest] using hmem)
    | cons d tail =>
        obtain ⟨rfl, -⟩ := List.cons.inj hbehind
        exact h ⟨p, tail, hp, hnot, by rw [hrest]⟩

/-- A scan takes the same when more text follows. -/
theorem Reads.append (h : Reads mode text pieces target rest) (hends : EndsLine text)
    (hmore : Stops isBlank more) (hclose : ClosesLists text more) :
    Reads mode (text ++ more) pieces target (rest ++ more) := by
  -- white space may reach the end of the text, other runs cannot, since a newline stops them
  cases h with
  | blank run ne =>
      rw [List.append_assoc]
      exact .blank (run.append fun _ => hmore) ne
  | @comment body r run =>
      have hne := hends.ne_nil ('#' :: body) (by simp) (by
        simpa using Text.newline_notMem_of_inLine run.all)
      simpa using .comment (run.append fun hnil => absurd hnil hne)
  | keyword mem run ne =>
      rw [List.append_assoc, List.append_assoc]
      exact .keyword mem (run.append fun _ => hmore) ne
  | rootOther blank hash opens =>
      exact .rootOther blank hash (not_opensRoute_append opens (by simp) hends)
  | urlEnd run ne =>
      rw [List.append_assoc]
      exact .urlEnd (run.append fun _ => hmore) ne
  | pathChar blank colon => exact .pathChar blank colon
  | @pathParam w r run ne =>
      have hne := hends.ne_nil (':' :: w) (by simp) (by
        simpa using Text.newline_notMem_of_isWord run.all)
      simpa using .pathParam (run.append fun hnil => absurd hnil hne) ne
  | @colon r stops =>
      have hne := hends.ne_nil [':'] (by simp) (by simp)
      exact .colon ((Text.stops_append hne).2 stops)
  | segment word ne => simpa using .segment word ne
  | @method w r run ne dot =>
      have hne := hends.ne_nil w ne (Text.newline_notMem_of_isWord run.all)
      have hrun : IsRun isWord w (rest ++ more) := run.append fun hnil => absurd hnil hne
      obtain ⟨c, cs, rfl⟩ := List.exists_cons_of_ne_nil hne
      rw [List.append_assoc]
      exact .method hrun ne (by simpa using dot)
  | parameters ne close => simpa using .parameters ne close
  | newline => exact .newline
  | objectOther word newline opens =>
      exact .objectOther word newline (not_opensList_append opens hclose)

/-! ## A run, and a pass -/

theorem Run.append (h : Run options mode text chunks final rest) (hends : EndsLine text)
    (hmore : Stops isBlank more) (hclose : ClosesLists text more) :
    Run options mode (text ++ more) chunks final (rest ++ more) := by
  induction h with
  | done => exact .done
  | read reads _ ih =>
      have hread := reads.append hends hmore hclose
      rw [reads.text_eq] at hends hclose
      exact .read hread (ih hends.behind hclose.behind)

namespace Stream

/-- A pass over two texts as one is a pass over the first, and one over the second behind it. -/
def Splits (options : LexerOptions) (a b : String) : Prop :=
  (start options (a ++ b)).drain.tokens =
      (start options a).drain.tokens ++
        (start options b).drain.tokens.map (·.shift a.utf8ByteSize) ∧
    (start options (a ++ b)).drain.stream.mode = (start options b).drain.stream.mode

theorem splits_of_root {a b : String} (ha : EndsLine a.toList) (hb : Stops isBlank b.toList)
    (hclose : ClosesLists a.toList b.toList)
    (hroot : (start options a).drain.stream.mode = .root) : Splits options a b := by
  obtain ⟨chunksA, finalA, hrunA⟩ := exists_run options .root a.toList
  obtain ⟨chunksB, finalB, hrunB⟩ := exists_run options .root b.toList
  obtain ⟨htokensA, hstreamA⟩ := drain_start hrunA
  obtain ⟨htokensB, hstreamB⟩ := drain_start hrunB
  obtain rfl : finalA = .root := by
    rw [hstreamA] at hroot
    exact hroot
  have hrun : Run options .root (a ++ b).toList (chunksA ++ chunksB) finalB [] := by
    rw [String.toList_append]
    exact (hrunA.append ha hb hclose).trans hrunB
  obtain ⟨htokens, hstream⟩ := drain_start hrun
  have htext : plain chunksA.flatten = a.toList := by simpa using hrunA.text_eq.symm
  rw [Splits, htokens, hstream, htokensA, htokensB, hstreamB, List.flatten_append,
    Piece.layOut_append, htext, Text.byteLength_toList, Piece.layOut_shift]
  exact ⟨rfl, rfl⟩

/-- A file is read line by line: the tokens of what is behind a newline do not depend on what is
before it, if the pass is in root mode there, as it always is when newlines reset it. -/
theorem drain_splits (options : LexerOptions) {a b : String} (ha : EndsLine a.toList)
    (hb : Stops isBlank b.toList) (hclose : ClosesLists a.toList b.toList) :
    ((start options a).drain.stream.mode = .root → Splits options a b) ∧
      (options.resetOnNewline = true →
        (start options a).drain.stream.mode = .root ∧ Splits options a b) := by
  refine ⟨splits_of_root ha hb hclose, fun hreset => ?_⟩
  have hroot : (start options a).drain.stream.mode = .root := by
    obtain ⟨chunks, final, hrun⟩ := exists_run options .root a.toList
    rw [(drain_start hrun).2]
    have htext : plain chunks.flatten = a.toList ++ [] := by simpa using hrun.text_eq.symm
    exact hrun.final_eq_root hreset htext ha (by simp) fun _ => rfl
  exact ⟨hroot, splits_of_root ha hb hclose hroot⟩

theorem splits_two_routes :
    Splits .default "GET /x a.b(c)\n" "POST /y d(e)" ∧
      (start ⟨true⟩ "GET /x a\n").drain.stream.mode = .root ∧
      Splits ⟨true⟩ "GET /x a\n" "# y" := by
  have hclosed : ClosesLists "GET /x a.b(c)\n".toList "POST /y d(e)".toList := by
    right
    intro behind hsuffix
    simp [List.suffix_cons_iff] at hsuffix
    simp [hsuffix]
  have hnone : ClosesLists "GET /x a\n".toList "# y".toList := by
    left
    decide
  have hend : ((start .default "GET /x a.b(c)\n").calls 13).2.next.token = none := by
    decide +kernel
  have hroot : (start .default "GET /x a.b(c)\n").drain.stream.mode = .root := by
    rw [(drain_of_calls hend).2]
    decide +kernel
  have hpost : Stops isBlank "POST /y d(e)".toList := Text.stops_cons.2 (by decide)
  have hdefault := drain_splits .default (by simp [EndsLine]) hpost hclosed
  exact ⟨hdefault.1 hroot, (drain_splits ⟨true⟩ (by simp [EndsLine]) (by simp) hnone).2 rfl⟩

end Stream

end RouteHighlight
