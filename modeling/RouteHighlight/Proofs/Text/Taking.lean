import RouteHighlight.Proofs.Text.Runs
import RouteHighlight.Text.Reader

/-!
# What a reader takes

A reader takes a text off the front of an input if it gives a value there and leaves the rest.
Readers in sequence take texts in sequence, so that a grammar can be followed along a text that was
written by it.
-/

namespace RouteHighlight.Text.Reader

variable {α β : Type} {reader : Reader α} {test : Char → Bool} {text more rest : List Char} {a : α}

/-- In front of `rest` the reader takes `text` and gives `a`. -/
def Takes (reader : Reader α) (text : List Char) (a : α) (rest : List Char) : Prop :=
  reader.run (.ofList (text ++ rest)) = some (a, .ofList rest)

def Refuses (reader : Reader α) (text : List Char) : Prop := reader.run (.ofList text) = none

theorem Takes.readAll? (h : Takes reader text a []) : reader.readAll? text = some a := by
  unfold Takes at h
  rw [List.append_nil] at h
  rw [Reader.readAll?, h]
  rfl

theorem takes_pure (a : α) (rest : List Char) : Takes (pure a) [] a rest := rfl

theorem refuses_failure (text : List Char) : Refuses (failure : Reader α) text := rfl

theorem Takes.bind {next : α → Reader β} {b : β} (h : Takes reader text a (more ++ rest))
    (hnext : Takes (next a) more b rest) : Takes (reader >>= next) (text ++ more) b rest := by
  unfold Takes at h hnext ⊢
  rw [StateT.run_bind, List.append_assoc, h]
  exact hnext

theorem Takes.ahead {next : α → Reader β} {b : β} (h : Takes reader [] a (text ++ rest))
    (hnext : Takes (next a) text b rest) : Takes (reader >>= next) text b rest := h.bind hnext

theorem Takes.last {next : α → Reader β} {b : β} (h : Takes reader text a rest)
    (hnext : Takes (next a) [] b rest) : Takes (reader >>= next) text b rest := by
  have hboth : Takes (reader >>= next) (text ++ []) b rest := Takes.bind h hnext
  rwa [List.append_nil] at hboth

theorem Refuses.bind (h : Refuses reader text) (next : α → Reader β) :
    Refuses (reader >>= next) text := by
  unfold Refuses at h ⊢
  rw [StateT.run_bind, h]
  rfl

theorem Takes.refuses {next : α → Reader β} (h : Takes reader text a rest)
    (hnext : Refuses (next a) rest) : Refuses (reader >>= next) (text ++ rest) := by
  unfold Takes at h
  unfold Refuses at hnext ⊢
  rw [StateT.run_bind, h]
  exact hnext

/-! ## Single characters -/

theorem takes_oneOf (test : Char → Bool) {c : Char} (h : test c = true) (rest : List Char) :
    Takes (oneOf test) [c] c rest := by
  have hnext : Input.next? (.ofList ([c] ++ rest)) = some (c, .ofList rest) := rfl
  simp only [Takes, StateT.run, oneOf, hnext, h, if_true]

theorem refuses_oneOf (h : Stops test text) : Refuses (oneOf test) text := by
  unfold Refuses
  simp only [StateT.run, oneOf]
  cases text with
  | nil => rfl
  | cons c cs =>
      have hc : test c = false := by simpa using h
      simp [hc]

theorem takes_char (c : Char) (rest : List Char) : Takes (char c) [c] () rest :=
  (takes_oneOf (· == c) (beq_self_eq_true c) rest).last (takes_pure () rest)

theorem refuses_char {c : Char} (h : Stops (· == c) text) : Refuses (char c) text :=
  (refuses_oneOf h).bind _

theorem takes_literal (text rest : List Char) : Takes (literal text) text () rest := by
  induction text with
  | nil => rfl
  | cons c cs ih =>
      have hboth : Takes (char c >>= fun _ => literal cs) ([c] ++ cs) () rest :=
        (takes_char c (cs ++ rest)).bind ih
      exact hboth

theorem takes_peek (text : List Char) : Takes peek [] text.head? text := rfl

theorem takes_finish : Takes finish [] () [] := rfl

/-! ## Runs -/

theorem takes_takeWhile {run : List Char} (h : IsRun test run rest) :
    Takes (takeWhile test) run run rest := by
  have hrest : rest.takeWhile test = [] ∧ rest.dropWhile test = rest := by
    cases rest with
    | nil => exact ⟨rfl, rfl⟩
    | cons c cs =>
        have hc : test c = false := by simpa using h.stops
        exact ⟨by simp [hc], by simp [hc]⟩
  have htake : (run ++ rest).takeWhile test = run := by
    rw [List.takeWhile_append_of_pos h.all, hrest.1, List.append_nil]
  have hdrop : (run ++ rest).dropWhile test = rest := by
    rw [List.dropWhile_append_of_pos h.all, hrest.2]
  simp only [Takes, StateT.run, takeWhile, Input.span_ofList, htake, hdrop]

theorem takes_takeWhile1 {run : List Char} (h : IsRun test run rest) (hne : run ≠ []) :
    Takes (takeWhile1 test) run run rest := by
  refine (takes_takeWhile h).last ?_
  rw [List.isEmpty_eq_false_iff.2 hne]
  exact takes_pure run rest

theorem refuses_takeWhile1 (h : Stops test text) : Refuses (takeWhile1 test) text := by
  have hrun : IsRun test [] text := ⟨nofun, h⟩
  exact (takes_takeWhile hrun).refuses (refuses_failure text)

theorem takes_exactly {run : List Char} (h : ∀ c ∈ run, test c = true) (rest : List Char) :
    Takes (exactly test run.length) run run rest := by
  induction run with
  | nil => rfl
  | cons c cs ih =>
      obtain ⟨hc, hcs⟩ := List.forall_mem_cons.1 h
      have hboth : Takes (oneOf test >>= fun c => exactly test cs.length >>= fun cs =>
          pure (c :: cs)) ([c] ++ cs) (c :: cs) rest :=
        (takes_oneOf test hc _).bind ((ih hcs).last (takes_pure _ rest))
      exact hboth

/-! ## Choice and repetition -/

theorem Takes.maybe (h : Takes reader text a rest) : Takes (maybe reader) text (some a) rest := by
  unfold Takes at h ⊢
  simp only [StateT.run, Reader.maybe] at h ⊢
  rw [h]

theorem Refuses.maybe (h : Refuses reader rest) : Takes (maybe reader) [] none rest := by
  unfold Refuses at h
  unfold Takes
  simp only [StateT.run, Reader.maybe, List.nil_append] at h ⊢
  rw [h]

theorem Refuses.many (h : Refuses reader rest) : Takes (many reader) [] [] rest := by
  unfold Refuses at h
  unfold Takes
  simp only [StateT.run, List.nil_append] at h ⊢
  rw [Reader.many]
  simp only [StateT.run, h]

theorem Takes.many {as : List α} (h : Takes reader text a (more ++ rest)) (hne : text ≠ [])
    (hmore : Takes (Reader.many reader) more as rest) :
    Takes (Reader.many reader) (text ++ more) (a :: as) rest := by
  unfold Takes at h hmore ⊢
  have hshorter :
      (Input.ofList (more ++ rest)).size < (Input.ofList (text ++ more ++ rest)).size := by
    have := List.length_pos_iff.2 hne
    simp only [Input.ofList, List.length_append]
    omega
  rw [← List.append_assoc] at h
  simp only [StateT.run] at h hmore ⊢
  rw [Reader.many]
  simp only [StateT.run, h, if_pos hshorter, hmore]
  rfl

end RouteHighlight.Text.Reader
