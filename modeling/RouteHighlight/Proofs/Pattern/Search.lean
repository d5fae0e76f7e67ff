import RouteHighlight.Pattern.Match
import RouteHighlight.Proofs.Text.Runs

/-!
# What the search for a match finds

`Pattern.run` tries the ways to match in the order of preference.  For the patterns of the rule
tables there is never a choice left: a run is always taken to its end.  The first section says so
for each operator, the second for each shape of pattern that the tables use.
-/

namespace RouteHighlight.Pattern

open Text (IsRun Stops)

/-! ## Operators -/

section Operators

variable {α : Type} {cls : CharClass} {w r : List Char} {taken : Nat} {groups : List Extent}

/-- A greedy run is taken to its end, provided that what follows cannot succeed only on a shorter
one. -/
theorem takeMost_run {next : Nat → List Char → Option α} (h : IsRun cls.test w r)
    (hshort : next (taken + w.length) r = none →
      ∀ u v, w = u ++ v → v ≠ [] → next (taken + u.length) (v ++ r) = none) :
    takeMost cls none next taken (w ++ r) = next (taken + w.length) r := by
  induction w generalizing taken with
  | nil =>
      cases r with
      | nil => simp [takeMost, beginsWith]
      | cons c cs =>
          have hc : cls.test c = false := by simpa using h.stops
          simp [takeMost, beginsWith, hc]
  | cons c cs ih =>
      have hc : cls.test c = true := h.all c (by simp)
      have hcs : IsRun cls.test cs r := ⟨fun x hx => h.all x (by simp [hx]), h.stops⟩
      have hlength : taken + (c :: cs).length = taken + 1 + cs.length := by
        simp only [List.length_cons]
        omega
      rw [hlength] at hshort ⊢
      have htail : takeMost cls none next (taken + 1) (cs ++ r) =
          next (taken + 1 + cs.length) r := by
        apply ih hcs
        intro hnone u v heq hv
        have := hshort hnone (c :: u) v (by simp [heq]) hv
        simpa only [List.length_cons, Nat.add_assoc, Nat.add_comm 1] using this
      have hstep : takeMost cls none next taken (c :: (cs ++ r)) =
          (next (taken + 1 + cs.length) r).or (next taken (c :: (cs ++ r))) := by
        rw [← htail]
        simp [takeMost, beginsWith, hc]
      rw [List.cons_append, hstep]
      cases hnext : next (taken + 1 + cs.length) r with
      | none => simpa using hshort hnext [] (c :: cs) rfl (by simp)
      | some x => rfl

/-- A lazy run goes on to the end of the characters of its class where nothing that follows
succeeds earlier. -/
theorem takeLeast_run {next : Nat → List Char → Option α} (h : IsRun cls.test w r)
    (hshort : ∀ u v, w = u ++ v → v ≠ [] → next (taken + u.length) (v ++ r) = none) :
    takeLeast cls next taken (w ++ r) = next (taken + w.length) r := by
  induction w generalizing taken with
  | nil =>
      cases r with
      | nil => simp [takeLeast]
      | cons c cs =>
          have hc : cls.test c = false := by simpa using h.stops
          simp [takeLeast, hc]
  | cons c cs ih =>
      have hc : cls.test c = true := h.all c (by simp)
      have hcs : IsRun cls.test cs r := ⟨fun x hx => h.all x (by simp [hx]), h.stops⟩
      have hhead : next taken (c :: (cs ++ r)) = none := by
        simpa using hshort [] (c :: cs) rfl (by simp)
      have htail : takeLeast cls next (taken + 1) (cs ++ r) = next (taken + 1 + cs.length) r := by
        apply ih hcs
        intro u v heq hv
        have := hshort (c :: u) v (by simp [heq]) hv
        simpa only [List.length_cons, Nat.add_assoc, Nat.add_comm 1] using this
      rw [List.cons_append, takeLeast, hhead, if_pos hc, htail]
      simp only [Option.none_or, List.length_cons, Nat.add_assoc, Nat.add_comm 1]

theorem run_many {next : Cursor → Option α} (h : IsRun cls.test w r) (hne : w ≠ [])
    (hshort : next ⟨taken + w.length, r, groups⟩ = none →
      ∀ u v, w = u ++ v → v ≠ [] → next ⟨taken + u.length, v ++ r, groups⟩ = none) :
    (many cls).run none next ⟨taken, w ++ r, groups⟩ = next ⟨taken + w.length, r, groups⟩ := by
  cases w with
  | nil => contradiction
  | cons c cs =>
      have hc : cls.test c = true := h.all c (by simp)
      have hcs : IsRun cls.test cs r := ⟨fun x hx => h.all x (by simp [hx]), h.stops⟩
      have hlength : taken + (c :: cs).length = taken + 1 + cs.length := by
        simp only [List.length_cons]
        omega
      rw [hlength] at hshort ⊢
      simp only [List.cons_append, run, hc, if_true]
      apply takeMost_run hcs
      intro hnone u v heq hv
      have := hshort hnone (c :: u) v (by simp [heq]) hv
      simpa only [List.length_cons, Nat.add_assoc, Nat.add_comm 1] using this

theorem run_many_of_stops {next : Cursor → Option α} {text : List Char}
    (h : Stops cls.test text) : (many cls).run none next ⟨taken, text, groups⟩ = none := by
  cases text with
  | nil => rfl
  | cons c cs =>
      have hc : cls.test c = false := by simpa using h
      simp [run, hc]

theorem run_sequence_cons (p : Pattern) (ps : List Pattern) (next : Cursor → Option α)
    (cur : Cursor) :
    (sequence (p :: ps)).run none next cur = p.run none ((sequence ps).run none next) cur := by
  cases ps with
  | nil => rfl
  | cons q qs => exact run_seq p (sequence (q :: qs)) next cur

theorem run_oneOf (p : Pattern) (ps : List Pattern) (next : Cursor → Option α) (cur : Cursor) :
    (oneOf p ps).run none next cur = (p :: ps).findSome? fun q => q.run none next cur := by
  induction ps generalizing p with
  | nil => simp [oneOf]
  | cons q qs ih =>
      rw [List.findSome?_cons, ← ih q]
      simp only [oneOf, run]
      cases p.run none next cur <;> rfl

theorem run_literal (word : String) (next : Cursor → Option α) (text : List Char) :
    (literal word).run none next ⟨taken, text, groups⟩ =
      if word.toList <+: text then
        next ⟨taken + word.toList.length, text.drop word.toList.length, groups⟩
      else none := by
  unfold literal
  induction word.toList generalizing taken text with
  | nil => simp [sequence, run]
  | cons c cs ih =>
      rw [List.map_cons, run_sequence_cons]
      cases text with
      | nil => simp [run]
      | cons d ds =>
          by_cases hd : d = c
          · subst hd
            simp [run, CharClass.test, ih, List.cons_prefix_cons, Nat.add_assoc, Nat.add_comm 1]
          · simp [run, CharClass.test, List.cons_prefix_cons, hd, Ne.symm hd]

end Operators

/-! ## Shapes of pattern -/

variable (cls : CharClass) {w r text : List Char}

theorem match?_many (h : IsRun cls.test w r) (hne : w ≠ []) :
    (many cls).match? (w ++ r) = some ⟨w.length, []⟩ := by
  rw [match?, run_many h hne (by simp)]
  simp

theorem match?_many_eq_none (h : Stops cls.test text) : (many cls).match? text = none :=
  run_many_of_stops h

theorem match?_one (c : Char) (cs : List Char) :
    (one cls).match? (c :: cs) = if cls.test c then some ⟨1, []⟩ else none := rfl

theorem match?_marked (c : Char) (h : IsRun cls.test w r) (hne : w ≠ []) :
    (sequence [.one (.exactly c), .many cls]).match? (c :: (w ++ r)) =
      some ⟨w.length + 1, []⟩ := by
  rw [match?, run_sequence_cons, Nat.add_comm]
  simp only [run, CharClass.test, beq_self_eq_true, if_true]
  exact run_many h hne (by simp)

theorem match?_marked_eq_none {c d : Char} (h : d = c → Stops cls.test text) :
    (sequence [.one (.exactly c), .many cls]).match? (d :: text) = none := by
  rw [match?, run_sequence_cons]
  by_cases hd : d = c
  · simp only [run, CharClass.test, hd, beq_self_eq_true, if_true]
    exact run_many_of_stops (h hd)
  · simp [run, CharClass.test, hd]

theorem match?_closed {c : Char} (h : ∀ x ∈ w, cls.test x = true) (hne : w ≠ [])
    (hc : cls.test c = false) :
    (sequence [.many cls, .one (.exactly c)]).match? (w ++ c :: r) =
      some ⟨w.length + 1, []⟩ := by
  have hrun : IsRun cls.test w (c :: r) := ⟨h, by simpa using hc⟩
  rw [match?, run_sequence_cons, run_many hrun hne]
  · simp [sequence, run, CharClass.test]
  · simp [sequence, run, CharClass.test]

theorem match?_closed_eq_none {c : Char} (h : IsRun cls.test w r) (hc : cls.test c = false)
    (hr : w ≠ [] → r.head? ≠ some c) :
    (sequence [.many cls, .one (.exactly c)]).match? (w ++ r) = none := by
  rw [match?, run_sequence_cons]
  by_cases hne : w = []
  · subst hne
    exact run_many_of_stops h.stops
  · -- Inside the run the next character is of the class, hence never the closing one.
    rw [run_many h hne]
    · cases r with
      | nil => simp [sequence, run]
      | cons d ds =>
          have hd : d ≠ c := by simpa using hr hne
          simp [sequence, run, CharClass.test, hd]
    · rintro - u v rfl hv
      cases v with
      | nil => contradiction
      | cons d ds =>
          have hd : d ≠ c := by
            rintro rfl
            simp [h.all d (by simp)] at hc
          simp [sequence, run, CharClass.test, hd]

theorem match?_line (c : Char) (h : IsRun CharClass.dot.test w r) :
    (sequence [.one (.exactly c), .few .dot, .lineEnd]).match? (c :: (w ++ r)) =
      some ⟨w.length + 1, []⟩ := by
  rw [match?, run_sequence_cons, Nat.add_comm]
  simp only [run, CharClass.test, beq_self_eq_true, if_true]
  rw [run_sequence_cons]
  simp only [run, Nat.zero_add]
  rw [takeLeast_run h]
  · cases r with
    | nil => simp [sequence, run]
    | cons d ds =>
        have hd : d = '\n' := by simpa [CharClass.test] using h.stops
        simp [sequence, run, hd]
  · rintro u v rfl hv
    cases v with
    | nil => contradiction
    | cons d ds =>
        have hd : d ≠ '\n' := by simpa [CharClass.test] using h.all d (by simp)
        simp [sequence, run, hd]

theorem match?_line_eq_none {c d : Char} (h : d ≠ c) :
    (sequence [.one (.exactly c), .few .dot, .lineEnd]).match? (d :: text) = none := by
  rw [match?, run_sequence_cons]
  simp [run, CharClass.test, h]

theorem match?_bracketed {o c : Char} (hne : w ≠ []) (h : c ∉ w) :
    (sequence [.group (.one (.exactly o)), .group (.many (.otherThan c)),
      .group (.one (.exactly c))]).match? (o :: (w ++ c :: r)) =
      some ⟨w.length + 2, [⟨0, 1⟩, ⟨1, 1 + w.length⟩, ⟨w.length + 1, w.length + 2⟩]⟩ := by
  have hrun : IsRun (CharClass.otherThan c).test w (c :: r) := by
    refine ⟨fun x hx => ?_, by simp [CharClass.test]⟩
    have hxc : x ≠ c := fun heq => h (heq ▸ hx)
    simpa [CharClass.test] using hxc
  rw [match?, run_sequence_cons]
  simp only [run, CharClass.test, beq_self_eq_true, if_true]
  rw [run_sequence_cons, run, run_many hrun hne]
  · simp [sequence, run, CharClass.test, Nat.add_comm 1]
  · simp [sequence, run, CharClass.test]

theorem match?_bracketed_eq_none {o c d : Char}
    (h : ¬ ∃ p rest, p ≠ [] ∧ c ∉ p ∧ d :: text = o :: (p ++ c :: rest)) :
    (sequence [.group (.one (.exactly o)), .group (.many (.otherThan c)),
      .group (.one (.exactly c))]).match? (d :: text) = none := by
  rw [match?, run_sequence_cons]
  by_cases hd : d = o
  · subst hd
    obtain ⟨p, rest, rfl, hrun⟩ := Text.exists_isRun (CharClass.otherThan c).test text
    simp only [run, CharClass.test, beq_self_eq_true, if_true]
    rw [run_sequence_cons, run]
    by_cases hp : p = []
    · subst hp
      exact run_many_of_stops hrun.stops
    · have hpc : c ∉ p := fun hmem => by simpa [CharClass.test] using hrun.all c hmem
      rw [run_many hrun hp]
      · cases rest with
        | nil => simp [sequence, run]
        | cons x xs =>
            have hx : x = c := by simpa [CharClass.test] using hrun.stops
            exact absurd ⟨p, xs, hp, hpc, by rw [hx]⟩ h
      · rintro - u v rfl hv
        cases v with
        | nil => contradiction
        | cons x xs =>
            have hx : x ≠ c := by simpa [CharClass.test] using hrun.all x (by simp)
            simp [sequence, run, CharClass.test, hx]
  · simp [run, CharClass.test, hd]

end RouteHighlight.Pattern
