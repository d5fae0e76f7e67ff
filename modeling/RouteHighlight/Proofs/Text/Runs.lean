import RouteHighlight.Text.Blank
import RouteHighlight.Text.Word

/-!
# Maximal runs

A run is the longest front of a text whose characters pass a test.  The scanner takes white
space, words, comments and parameter lists as runs; this module says when a front is a run, that
every text has one, and how runs meet the boundary between two texts.
-/

namespace RouteHighlight.Text

variable {test : Char → Bool}

/-- The text is empty, or its first character fails the test. -/
def Stops (test : Char → Bool) (text : List Char) : Prop :=
  ∀ c ∈ text.head?, test c = false

@[simp] theorem stops_nil : Stops test [] := by simp [Stops]

@[simp] theorem stops_cons {c : Char} {cs : List Char} :
    Stops test (c :: cs) ↔ test c = false := by
  simp [Stops]

/-- `run` is the longest front of `run ++ rest` whose characters pass the test. -/
structure IsRun (test : Char → Bool) (run rest : List Char) : Prop where
  all : ∀ c ∈ run, test c = true
  stops : Stops test rest

theorem exists_isRun (test : Char → Bool) (text : List Char) :
    ∃ run rest, text = run ++ rest ∧ IsRun test run rest := by
  induction text with
  | nil => exact ⟨[], [], rfl, by simp, stops_nil⟩
  | cons c cs ih =>
      by_cases hc : test c = true
      · obtain ⟨run, rest, rfl, hrun⟩ := ih
        refine ⟨c :: run, rest, rfl, ?_, hrun.stops⟩
        simpa [hc] using hrun.all
      · exact ⟨[], c :: cs, rfl, by simp, by simpa using hc⟩

theorem exists_isRun_cons {c : Char} (cs : List Char) (hc : test c = true) :
    ∃ run rest, c :: cs = run ++ rest ∧ run ≠ [] ∧ IsRun test run rest := by
  obtain ⟨run, rest, heq, hrun⟩ := exists_isRun test (c :: cs)
  refine ⟨run, rest, heq, ?_, hrun⟩
  rintro rfl
  have hstops := hrun.stops
  rw [← show c :: cs = rest from heq] at hstops
  simp [hc] at hstops

theorem stops_append {xs ys : List Char} (hxs : xs ≠ []) :
    Stops test (xs ++ ys) ↔ Stops test xs := by
  cases xs with
  | nil => contradiction
  | cons x xs => simp

theorem IsRun.append {run rest more : List Char} (h : IsRun test run rest)
    (hmore : rest = [] → Stops test more) : IsRun test run (rest ++ more) := by
  refine ⟨h.all, ?_⟩
  cases rest with
  | nil => exact hmore rfl
  | cons c cs => simpa using h.stops

theorem IsRun.unique {run run' rest rest' : List Char} (h : IsRun test run rest)
    (h' : IsRun test run' rest') (heq : run ++ rest = run' ++ rest') :
    run = run' ∧ rest = rest' := by
  induction run generalizing run' with
  | nil =>
      cases run' with
      | nil => exact ⟨rfl, heq⟩
      | cons d ds =>
          have hstops := h.stops
          rw [show rest = d :: (ds ++ rest') from heq] at hstops
          simp [h'.all d (by simp)] at hstops
  | cons c cs ih =>
      cases run' with
      | nil =>
          have hstops := h'.stops
          rw [show rest' = c :: (cs ++ rest) from heq.symm] at hstops
          simp [h.all c (by simp)] at hstops
      | cons d ds =>
          obtain ⟨rfl, htail⟩ := List.cons.inj heq
          have hcs : IsRun test cs rest := ⟨fun x hx => h.all x (by simp [hx]), h.stops⟩
          have hds : IsRun test ds rest' := ⟨fun x hx => h'.all x (by simp [hx]), h'.stops⟩
          obtain ⟨rfl, rfl⟩ := ih hcs hds htail
          exact ⟨rfl, rfl⟩

/-! ## Classes of characters -/

@[simp] theorem isWord_newline : isWord '\n' = false := by decide

theorem newline_notMem_of_isWord {cs : List Char} (h : ∀ c ∈ cs, isWord c = true) :
    '\n' ∉ cs := by
  intro hmem
  have := h _ hmem
  simp at this

theorem newline_notMem_of_inLine {cs : List Char} (h : ∀ c ∈ cs, (c != '\n') = true) :
    '\n' ∉ cs := by
  intro hmem
  have := h _ hmem
  simp at this

@[simp] theorem isWord_dot : isWord '.' = false := by decide

@[simp] theorem isWord_colon : isWord ':' = false := by decide

@[simp] theorem isWord_open : isWord '(' = false := by decide

@[simp] theorem isWord_close : isWord ')' = false := by decide

@[simp] theorem isBlank_hash : isBlank '#' = false := by decide

@[simp] theorem isBlank_colon : isBlank ':' = false := by decide

private theorem not_word_of_blank_code :
    ∀ range ∈ blankRanges, ∀ k < range.2 + 1 - range.1,
      wordRanges.contains (range.1 + k) = false := by
  decide +kernel

theorem isWord_of_isBlank {c : Char} (h : isBlank c = true) : isWord c = false := by
  obtain ⟨range, hmem, hlow, hhigh⟩ := Ranges.mem_range_of_contains h
  have hcode := not_word_of_blank_code range hmem (c.toNat - range.1) (by omega)
  rwa [Nat.add_sub_cancel' hlow] at hcode

theorem isBlank_of_isWord {c : Char} (h : isWord c = true) : isBlank c = false := by
  cases hblank : isBlank c with
  | false => rfl
  | true =>
      rw [isWord_of_isBlank hblank] at h
      contradiction

end RouteHighlight.Text
