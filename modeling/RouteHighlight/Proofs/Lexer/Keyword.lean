import RouteHighlight.Lexer.Rule
import RouteHighlight.Proofs.Pattern.Search

/-!
# Route keywords

The rule for keywords is the only one with alternatives.  No keyword holds white space, so a text
has at most one keyword with white space behind it, and the order of the alternatives does not
matter.
-/

namespace RouteHighlight.Rule

open Pattern (literal oneOf)
open Text (IsRun Stops isBlank isWord)

/-- A keyword of the table and a white-space character stand at the start of the text. -/
def OpensRoute (text : List Char) : Prop :=
  ∃ k ∈ routeKeywords, ∃ c rest, isBlank c = true ∧ text = k.toList ++ c :: rest

theorem keyword_chars {k : String} (hk : k ∈ routeKeywords) :
    ∀ c ∈ k.toList, isBlank c = false ∧ c ≠ '#' ∧ c ≠ ')' := by
  -- in terms of `all`: the characters could otherwise be decided one by one
  have hall : (routeKeywords.all fun k => k.toList.all fun c =>
      !isBlank c && c != '#' && c != ')') = true := by decide
  intro c hc
  have hchar := List.all_eq_true.1 (List.all_eq_true.1 hall k hk) c hc
  simpa [and_assoc] using hchar

theorem keyword_ne_nil {k : String} (hk : k ∈ routeKeywords) : k.toList ≠ [] := by
  have hall : ∀ k ∈ routeKeywords, k.toList ≠ [] := by decide
  exact hall k hk

theorem keyword_isRun {k : String} (hk : k ∈ routeKeywords) {c : Char} {rest : List Char}
    (hc : isBlank c = true) : IsRun (fun x => !isBlank x) k.toList (c :: rest) := by
  refine ⟨fun x hx => ?_, by simp [hc]⟩
  simp [(keyword_chars hk x hx).1]

theorem keyword_unique {k k' : String} (hk : k ∈ routeKeywords) (hk' : k' ∈ routeKeywords)
    {c c' : Char} {rest rest' : List Char} (hc : isBlank c = true) (hc' : isBlank c' = true)
    (heq : k.toList ++ c :: rest = k'.toList ++ c' :: rest') : k = k' := by
  have hchars := ((keyword_isRun hk hc).unique (keyword_isRun hk' hc') heq).1
  exact String.toList_inj.1 hchars

theorem run_keywordPattern {α : Type} (next : Pattern.Cursor → Option α) (cur : Pattern.Cursor) :
    keywordPattern.run none next cur =
      routeKeywords.findSome? fun k => (literal k).run none next cur := by
  have hpattern : keywordPattern =
      oneOf (literal "GET") (["POST", "PATCH", "DELETE", "PUT", "OPTIONS", "->"].map literal) := rfl
  rw [hpattern, Pattern.run_oneOf, ← List.map_cons, List.findSome?_map]
  rfl

def attempt (text : List Char) (k : String) : Option Match :=
  if k.toList <+: text then
    (Pattern.many .blank).run none
      (fun cur => some ⟨cur.taken, [⟨0, k.toList.length⟩, ⟨k.toList.length, cur.taken⟩]⟩)
      ⟨k.toList.length, text.drop k.toList.length, []⟩
  else none

theorem match?_keyword_eq (text : List Char) :
    (Pattern.sequence [.group keywordPattern, .group (.many .blank)]).match? text =
      routeKeywords.findSome? (attempt text) := by
  rw [Pattern.match?, Pattern.run_sequence_cons, Pattern.run, run_keywordPattern]
  apply congrArg fun f => routeKeywords.findSome? f
  funext k
  rw [Pattern.run_literal, attempt]
  split
  · simp only [Pattern.sequence, Pattern.run, List.nil_append, List.cons_append, Nat.zero_add]
  · rfl

theorem attempt_keyword (k : String) {w r : List Char} (h : IsRun isBlank w r) (hne : w ≠ []) :
    attempt (k.toList ++ (w ++ r)) k =
      some ⟨k.toList.length + w.length,
        [⟨0, k.toList.length⟩, ⟨k.toList.length, k.toList.length + w.length⟩]⟩ := by
  rw [attempt, if_pos (List.prefix_append _ _), List.drop_left]
  exact Pattern.run_many h hne (by simp)

theorem exists_of_attempt_ne_none {text : List Char} {k : String} (h : attempt text k ≠ none) :
    ∃ c rest, isBlank c = true ∧ text = k.toList ++ c :: rest := by
  unfold attempt at h
  split at h
  next hprefix =>
    obtain ⟨tail, rfl⟩ := hprefix
    rw [List.drop_left] at h
    cases tail with
    | nil => exact absurd rfl h
    | cons c rest =>
        refine ⟨c, rest, ?_, rfl⟩
        cases hc : isBlank c with
        | true => rfl
        | false => exact absurd (Pattern.run_many_of_stops (by simpa [CharClass.test] using hc)) h
  next => exact absurd rfl h

theorem match?_keyword {k : String} (hk : k ∈ routeKeywords) {w r : List Char}
    (h : IsRun isBlank w r) (hne : w ≠ []) :
    (Pattern.sequence [.group keywordPattern, .group (.many .blank)]).match?
        (k.toList ++ (w ++ r)) =
      some ⟨k.toList.length + w.length,
        [⟨0, k.toList.length⟩, ⟨k.toList.length, k.toList.length + w.length⟩]⟩ := by
  have hattempt := attempt_keyword k h hne
  rw [match?_keyword_eq]
  cases hfind : routeKeywords.findSome? (attempt (k.toList ++ (w ++ r))) with
  | none =>
      have := List.findSome?_eq_none_iff.1 hfind k hk
      simp [hattempt] at this
  | some m =>
      obtain ⟨k', hk', hm⟩ := List.exists_of_findSome?_eq_some hfind
      obtain ⟨c, rest, hc, heq⟩ := exists_of_attempt_ne_none (by rw [hm]; simp)
      cases w with
      | nil => contradiction
      | cons d ds =>
          obtain rfl := keyword_unique hk hk' (h.all d (by simp)) hc heq
          rw [← hm, hattempt]

theorem match?_keyword_eq_none {text : List Char} (h : ¬ OpensRoute text) :
    (Pattern.sequence [.group keywordPattern, .group (.many .blank)]).match? text = none := by
  rw [match?_keyword_eq, List.findSome?_eq_none_iff]
  intro k hk
  cases hattempt : attempt text k with
  | none => rfl
  | some m => exact absurd ⟨k, hk, exists_of_attempt_ne_none (by rw [hattempt]; simp)⟩ h

end RouteHighlight.Rule
