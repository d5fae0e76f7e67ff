import RouteHighlight.Text.Reader

/-!
# What a reader yields

A property of all the values that a reader gives, whatever it reads.  The property passes through
sequencing, choice and repetition, so it is proved along the definition of a grammar.
-/

namespace RouteHighlight.Text.Reader

variable {α β : Type} {P : α → Prop} {Q : β → Prop} {reader other : Reader α}

/-- Every value that the reader gives has the property. -/
def Yields (P : α → Prop) (reader : Reader α) : Prop :=
  ∀ input a rest, reader.run input = some (a, rest) → P a

theorem Yields.readAll? {cs : List Char} {a : α} (h : Yields P reader)
    (hread : reader.readAll? cs = some a) : P a := by
  unfold Reader.readAll? at hread
  split at hread
  next b rest hrun =>
    split at hread
    · cases hread
      exact h _ _ _ hrun
    · cases hread
  next => cases hread

theorem yields_pure {a : α} (h : P a) : Yields P (pure a) := by
  intro input b rest hrun
  cases hrun
  exact h

theorem yields_failure : Yields P failure := by
  intro input a rest hrun
  cases hrun

theorem yields_bind {next : α → Reader β} (h : Yields P reader)
    (hnext : ∀ a, P a → Yields Q (next a)) : Yields Q (reader >>= next) := by
  intro input b rest hrun
  rw [StateT.run_bind] at hrun
  obtain ⟨⟨a, mid⟩, hread, hrun⟩ := Option.bind_eq_some_iff.1 hrun
  exact hnext a (h input a mid hread) mid b rest hrun

theorem yields_of_next {next : α → Reader β} (hnext : ∀ a, Yields Q (next a)) :
    Yields Q (reader >>= next) :=
  yields_bind (P := fun _ => True) (fun _ _ _ _ => trivial) fun a _ => hnext a

theorem yields_orElse (h : Yields P reader) (hother : Yields P other) :
    Yields P (reader <|> other) := by
  intro input a rest hrun
  change (reader.run input <|> other.run input) = some (a, rest) at hrun
  cases hread : reader.run input with
  | some found =>
      rw [hread] at hrun
      cases hrun
      exact h input a rest hread
  | none =>
      rw [hread] at hrun
      exact hother input a rest hrun

theorem yields_maybe (h : Yields P reader) : Yields (∀ a ∈ ·, P a) (maybe reader) := by
  intro input found rest hrun
  simp only [maybe, StateT.run] at hrun
  split at hrun
  next a behind hread =>
    cases hrun
    intro b hb
    cases hb
    exact h input a _ hread
  next =>
    cases hrun
    intro b hb
    cases hb

theorem yields_many (h : Yields P reader) : Yields (∀ a ∈ ·, P a) (many reader) := by
  intro input
  induction hsize : input.size using Nat.strongRecOn generalizing input with
  | ind n ih =>
      intro found rest hrun
      rw [StateT.run, many] at hrun
      split at hrun
      next => cases hrun; simp
      next a behind hread =>
        split at hrun
        next hlt =>
          obtain ⟨⟨others, last⟩, hmany, heq⟩ := Option.map_eq_some_iff.1 hrun
          cases heq
          have hothers := ih behind.size (hsize ▸ hlt) behind rfl others rest hmany
          simpa using ⟨h input a behind hread, hothers⟩
        next => cases hrun; simp

theorem yields_sepBy1 {separator : Reader β} (h : Yields P reader) :
    Yields (∀ a ∈ ·, P a) (sepBy1 reader separator) := by
  refine yields_bind h fun first hfirst => ?_
  refine yields_bind (yields_many (yields_of_next fun _ => h)) fun others hothers => ?_
  exact yields_pure (by simpa using ⟨hfirst, hothers⟩)

end RouteHighlight.Text.Reader
