import RouteHighlight.Text.Lowercase

/-!
# Texts that are in lower case

An ASCII text without capitals is its own lower-case form.
-/

namespace RouteHighlight.Text

/-- An ASCII character that is not a capital. -/
def IsSmall (c : Char) : Prop := c.toNat < 0x80 ∧ ¬ (0x41 ≤ c.toNat ∧ c.toNat ≤ 0x5A)

private theorem caseRuns_bounds :
    ∀ run ∈ caseRuns, 0x41 ≤ run.first ∧ run.last ≤ 0x5A ∨ 0x80 ≤ run.first := by
  decide +kernel

theorem lowerChar_of_isSmall {c : Char} (h : IsSmall c) : lowerChar c = [c] := by
  have hdotted : c ≠ '\u0130' := by
    rintro rfl
    exact absurd h.1 (by decide)
  have hnone : caseRuns.findSome? (·.lower? c.toNat) = none := by
    rw [List.findSome?_eq_none_iff]
    intro run hrun
    obtain ⟨hascii, hcapital⟩ := h
    have hbounds := caseRuns_bounds run hrun
    have hout : ¬ (run.first ≤ c.toNat ∧ c.toNat ≤ run.last) := by omega
    simp only [CaseRun.lower?, Bool.and_eq_true, decide_eq_true_eq]
    rw [if_neg fun hin => hout hin.1]
  rw [lowerChar, if_neg hdotted, hnone]

theorem lowerChars_of_isSmall {cs : List Char} (h : ∀ c ∈ cs, IsSmall c) (before : List Char) :
    lowerChars before cs = cs := by
  induction cs generalizing before with
  | nil => rfl
  | cons c cs ih =>
      obtain ⟨hc, hcs⟩ := List.forall_mem_cons.1 h
      have hsigma : c ≠ 'Σ' := by
        rintro rfl
        exact absurd hc.1 (by decide)
      rw [lowerChars, if_neg hsigma, lowerChar_of_isSmall hc, ih hcs]
      rfl

theorem lowercase_of_isSmall {s : String} (h : ∀ c ∈ s.toList, IsSmall c) : lowercase s = s := by
  rw [lowercase, lowerChars_of_isSmall h, String.ofList_toList]

end RouteHighlight.Text
