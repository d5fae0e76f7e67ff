import RouteHighlight.Proofs.Lexer.Keyword

/-!
# What each rule matches

A pattern of the rule tables matches where a plain scanner would find something, and it matches
just that: a run to its end, a mark with what follows it, what stands between two brackets.  The
first part says so for each shape of pattern, `Rule.Finds` for the rules by their names.
-/

namespace RouteHighlight

open Text (IsRun Stops isBlank isWord)

/-! ## Shapes of pattern -/

namespace Pattern

variable {cls : CharClass} {text : List Char} {m : Match}

theorem eq_some_iff_of {found : Option Match} {finds : Match → Prop}
    (hsome : ∀ m, finds m → found = some m) (hnone : (∀ m, ¬ finds m) → found = none) :
    found = some m ↔ finds m := by
  constructor
  · intro hfound
    by_cases hfinds : ∃ m', finds m'
    · obtain ⟨m', hm'⟩ := hfinds
      obtain rfl := Option.some.inj (hfound.symm.trans (hsome m' hm'))
      exact hm'
    · rw [hnone fun m' hm' => hfinds ⟨m', hm'⟩] at hfound
      contradiction
  · exact hsome m

theorem match?_many_eq_some_iff :
    (many cls).match? text = some m ↔
      ∃ w r, text = w ++ r ∧ IsRun cls.test w r ∧ w ≠ [] ∧ m = ⟨w.length, []⟩ := by
  apply eq_some_iff_of
  · rintro _ ⟨w, r, rfl, run, ne, rfl⟩
    exact match?_many cls run ne
  · intro h
    obtain ⟨w, r, rfl, run⟩ := Text.exists_isRun cls.test text
    cases w with
    | nil => exact match?_many_eq_none cls run.stops
    | cons c cs => exact absurd ⟨_, _, rfl, run, by simp, rfl⟩ (h _)

theorem match?_one_eq_some_iff :
    (one cls).match? text = some m ↔ ∃ c r, text = c :: r ∧ cls.test c = true ∧ m = ⟨1, []⟩ := by
  apply eq_some_iff_of
  · rintro _ ⟨c, r, rfl, hc, rfl⟩
    rw [match?_one, if_pos hc]
  · intro h
    cases text with
    | nil => rfl
    | cons c cs => rw [match?_one, if_neg fun hc => h _ ⟨c, cs, rfl, hc, rfl⟩]

theorem match?_marked_eq_some_iff {c : Char} :
    (sequence [.one (.exactly c), .many cls]).match? text = some m ↔
      ∃ w r, text = c :: (w ++ r) ∧ IsRun cls.test w r ∧ w ≠ [] ∧ m = ⟨w.length + 1, []⟩ := by
  apply eq_some_iff_of
  · rintro _ ⟨w, r, rfl, run, ne, rfl⟩
    exact match?_marked cls c run ne
  · intro h
    cases text with
    | nil => rfl
    | cons d ds =>
        apply match?_marked_eq_none
        rintro rfl
        obtain ⟨w, r, rfl, run⟩ := Text.exists_isRun cls.test ds
        cases w with
        | nil => exact run.stops
        | cons x xs => exact absurd ⟨_, _, rfl, run, by simp, rfl⟩ (h _)

theorem match?_closed_eq_some_iff {c : Char} (hc : cls.test c = false) :
    (sequence [.many cls, .one (.exactly c)]).match? text = some m ↔
      ∃ w r, text = w ++ c :: r ∧ IsRun cls.test w (c :: r) ∧ w ≠ [] ∧ m = ⟨w.length + 1, []⟩ := by
  apply eq_some_iff_of
  · rintro _ ⟨w, r, rfl, run, ne, rfl⟩
    exact match?_closed cls run.all ne hc
  · intro h
    obtain ⟨w, r, rfl, run⟩ := Text.exists_isRun cls.test text
    apply match?_closed_eq_none cls run hc
    intro ne hhead
    obtain ⟨r, rfl⟩ := List.head?_eq_some_iff.1 hhead
    exact h _ ⟨w, r, rfl, run, ne, rfl⟩

theorem match?_line_eq_some_iff {c : Char} :
    (sequence [.one (.exactly c), .few .dot, .lineEnd]).match? text = some m ↔
      ∃ w r, text = c :: (w ++ r) ∧ IsRun CharClass.dot.test w r ∧ m = ⟨w.length + 1, []⟩ := by
  apply eq_some_iff_of
  · rintro _ ⟨w, r, rfl, run, rfl⟩
    exact match?_line c run
  · intro h
    cases text with
    | nil => rfl
    | cons d ds =>
        apply match?_line_eq_none
        rintro rfl
        obtain ⟨w, r, rfl, run⟩ := Text.exists_isRun CharClass.dot.test ds
        exact h _ ⟨w, r, rfl, run, rfl⟩

theorem match?_bracketed_eq_some_iff {o c : Char} :
    (sequence [.group (.one (.exactly o)), .group (.many (.otherThan c)),
      .group (.one (.exactly c))]).match? text = some m ↔
      ∃ w r, text = o :: (w ++ c :: r) ∧ w ≠ [] ∧ c ∉ w ∧
        m = ⟨w.length + 2, [⟨0, 1⟩, ⟨1, 1 + w.length⟩, ⟨w.length + 1, w.length + 2⟩]⟩ := by
  apply eq_some_iff_of
  · rintro _ ⟨w, r, rfl, ne, close, rfl⟩
    exact match?_bracketed ne close
  · intro h
    cases text with
    | nil => rfl
    | cons d ds =>
        apply match?_bracketed_eq_none
        rintro ⟨w, r, ne, close, heq⟩
        exact h _ ⟨w, r, heq, ne, close, rfl⟩

end Pattern

/-! ## The rules -/

namespace Rule

variable {text : List Char} {m : Match}

theorem match?_keyword_eq_some_iff :
    (Pattern.sequence [.group keywordPattern, .group (.many .blank)]).match? text = some m ↔
      ∃ k ∈ routeKeywords, ∃ w r, text = k.toList ++ (w ++ r) ∧ IsRun isBlank w r ∧ w ≠ [] ∧
        m = ⟨k.toList.length + w.length,
          [⟨0, k.toList.length⟩, ⟨k.toList.length, k.toList.length + w.length⟩]⟩ := by
  apply Pattern.eq_some_iff_of
  · rintro _ ⟨k, mem, w, r, rfl, run, ne, rfl⟩
    exact match?_keyword mem run ne
  · intro h
    apply match?_keyword_eq_none
    rintro ⟨k, mem, c, rest, hc, rfl⟩
    obtain ⟨w, r, heq, ne, run⟩ := Text.exists_isRun_cons rest hc
    exact h _ ⟨k, mem, w, r, by rw [heq], run, ne, rfl⟩

/-- What the rule of a name finds at the start of a text. -/
def Finds (name : String) (text : List Char) (m : Match) : Prop :=
  match name with
  | "whitespace" | "url_end" =>
    ∃ w r, text = w ++ r ∧ IsRun isBlank w r ∧ w ≠ [] ∧ m = ⟨w.length, []⟩
  | "comment" =>
    ∃ w r, text = '#' :: (w ++ r) ∧ IsRun (fun c => c != '\n') w r ∧ m = ⟨w.length + 1, []⟩
  | "route_keyword" =>
    ∃ k ∈ routeKeywords, ∃ w r, text = k.toList ++ (w ++ r) ∧ IsRun isBlank w r ∧ w ≠ [] ∧
      m = ⟨k.toList.length + w.length,
        [⟨0, k.toList.length⟩, ⟨k.toList.length, k.toList.length + w.length⟩]⟩
  | "path_char" => ∃ c r, text = c :: r ∧ c ≠ ':' ∧ m = ⟨1, []⟩
  | "path_param" =>
    ∃ w r, text = ':' :: (w ++ r) ∧ IsRun isWord w r ∧ w ≠ [] ∧ m = ⟨w.length + 1, []⟩
  | "namespace_segment" =>
    ∃ w r, text = w ++ '.' :: r ∧ IsRun isWord w ('.' :: r) ∧ w ≠ [] ∧ m = ⟨w.length + 1, []⟩
  | "method_name" => ∃ w r, text = w ++ r ∧ IsRun isWord w r ∧ w ≠ [] ∧ m = ⟨w.length, []⟩
  | "parameter_list" =>
    ∃ p r, text = '(' :: (p ++ ')' :: r) ∧ p ≠ [] ∧ ')' ∉ p ∧
      m = ⟨p.length + 2, [⟨0, 1⟩, ⟨1, 1 + p.length⟩, ⟨p.length + 1, p.length + 2⟩]⟩
  | _ => False

theorem pattern_match?_iff {mode : Mode} {rule : Rule} (h : rule ∈ table mode) :
    rule.pattern.match? text = some m ↔ Finds rule.name text m := by
  cases mode with
  | root =>
      simp only [table, rootTable, List.mem_cons, List.not_mem_nil, or_false] at h
      rcases h with rfl | rfl | rfl
      · exact Pattern.match?_many_eq_some_iff
      · exact Pattern.match?_line_eq_some_iff
      · exact match?_keyword_eq_some_iff
  | url =>
      simp only [table, urlTable, List.mem_cons, List.not_mem_nil, or_false] at h
      rcases h with rfl | rfl | rfl
      · exact Pattern.match?_many_eq_some_iff
      · have hone : (Pattern.one (.otherThan ':')).match? text = some m ↔ _ :=
          Pattern.match?_one_eq_some_iff
        simpa [Finds, CharClass.test] using hone
      · exact Pattern.match?_marked_eq_some_iff
  | object =>
      simp only [table, objectTable, List.mem_cons, List.not_mem_nil, or_false] at h
      rcases h with rfl | rfl | rfl
      · exact Pattern.match?_closed_eq_some_iff Text.isWord_dot
      · exact Pattern.match?_many_eq_some_iff
      · exact Pattern.match?_bracketed_eq_some_iff

theorem size_pos_of_finds {name : String} (h : Finds name text m) : 0 < m.size := by
  unfold Finds at h
  split at h
  -- whitespace, url_end and method_name: a run alone
  case h_1 | h_2 | h_8 =>
    obtain ⟨w, r, -, -, ne, rfl⟩ := h
    exact List.length_pos_iff.2 ne
  case h_3 =>
    obtain ⟨w, r, -, -, rfl⟩ := h
    exact Nat.succ_pos _
  case h_4 =>
    obtain ⟨k, -, w, r, -, -, ne, rfl⟩ := h
    exact Nat.add_pos_right _ (List.length_pos_iff.2 ne)
  case h_5 =>
    obtain ⟨c, r, -, -, rfl⟩ := h
    exact Nat.one_pos
  -- path_param, namespace_segment and parameter_list: a run and its marks
  case h_6 | h_7 | h_9 =>
    obtain ⟨w, r, -, -, -, rfl⟩ := h
    exact Nat.succ_pos _
  case h_10 => contradiction

/-- A rule matches what the scanner of its name finds, with the same groups, and nothing where
that finds nothing; its match is never empty. -/
theorem match?_iff_finds {mode : Mode} {rule : Rule} (h : rule ∈ table mode) (text : List Char)
    (m : Match) :
    (rule.pattern.match? text = some m ↔ Finds rule.name text m) ∧
      (rule.match? text = some m ↔ Finds rule.name text m) := by
  have hpattern : rule.pattern.match? text = some m ↔ Finds rule.name text m :=
    pattern_match?_iff h
  refine ⟨hpattern, ?_⟩
  rw [match?, Option.filter_eq_some_iff, hpattern, decide_eq_true_iff]
  exact ⟨fun hfound => hfound.1, fun hfinds => ⟨hfinds, size_pos_of_finds hfinds⟩⟩

theorem match?_parameters_over_lines :
    let rule := objectTable[2]
    let text := "(a\n(b) c)".toList
    let found : Match := ⟨6, [⟨0, 1⟩, ⟨1, 5⟩, ⟨5, 6⟩]⟩
    rule ∈ table .object ∧ Finds rule.name text found ∧ rule.match? text = some found := by
  intro rule text found
  have hrule : rule ∈ table .object := by decide
  have hfinds : Finds rule.name text found :=
    ⟨"a\n(b".toList, " c)".toList, by decide, by decide, by decide, by decide⟩
  exact ⟨hrule, hfinds, (match?_iff_finds hrule text found).2.2 hfinds⟩

end Rule

end RouteHighlight
