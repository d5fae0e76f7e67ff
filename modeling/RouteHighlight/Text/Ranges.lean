/-!
# Tables of code point ranges

A character property is stored as an ascending list of inclusive, disjoint ranges of code
points.
-/

namespace RouteHighlight.Text

/-- An ascending list of disjoint inclusive ranges of code points. -/
abbrev Ranges := List (Nat × Nat)

namespace Ranges

def contains : Ranges → Nat → Bool
  | [], _ => false
  | (low, high) :: rest, n => low ≤ n && (n ≤ high || contains rest n)

theorem mem_range_of_contains {ranges : Ranges} {n : Nat} (h : ranges.contains n = true) :
    ∃ range ∈ ranges, range.1 ≤ n ∧ n ≤ range.2 := by
  induction ranges with
  | nil => simp [contains] at h
  | cons range rest ih =>
      obtain ⟨low, high⟩ := range
      simp only [contains, Bool.and_eq_true, Bool.or_eq_true, decide_eq_true_eq] at h
      obtain ⟨hlow, hhigh | hrest⟩ := h
      · exact ⟨(low, high), by simp, hlow, hhigh⟩
      · obtain ⟨found, hmem, hin⟩ := ih hrest
        exact ⟨found, by simp [hmem], hin⟩

end Ranges

end RouteHighlight.Text
