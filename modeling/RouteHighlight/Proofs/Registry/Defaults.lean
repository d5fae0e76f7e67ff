import Mathlib.Logic.Function.Iterate
import RouteHighlight.Proofs.Registry.Registration

/-!
# Asking for the defaults

A host may ask for the defaults at any time and as often as it likes.  The routes lexer is set up
when no alias is taken, behind everything that is registered already.  A registry in which an alias
is taken is left as it is, whether the routes lexer is in it or not.
-/

namespace RouteHighlight

theorem Registry.get?_eq_none_of_available {registry : Registry} (h : registry.available = [])
    (aliasName : String) : registry.get? aliasName = none := by
  have hmem := registry.mem_available_iff aliasName
  rw [h, has_eq_isSome_get?] at hmem
  simpa using hmem

namespace Session

theorem exists_entered_setup (session : Session) :
    ∃ after, session.perform setup = (.ok (), after) ∧ Entered .routes session after :=
  ⟨_, session.perform_setup, session.entered_insert .routes⟩

theorem perform_initDefaults (session : Session) :
    session.perform initDefaults =
      if session.registry.available.isEmpty then session.perform setup else (.ok (), session) := by
  have hget : session.perform get = (.ok session, session) := rfl
  rw [initDefaults, perform_bind_of_ok _ hget]
  split <;> rfl

theorem perform_initDefaults_cases (session : Session) :
    (session.registry.available = [] ∧ ∃ after,
      session.perform initDefaults = (.ok (), after) ∧ Entered .routes session after) ∨
    (session.registry.available ≠ [] ∧ session.perform initDefaults = (.ok (), session)) := by
  rw [perform_initDefaults]
  cases havailable : session.registry.available with
  | nil => exact .inl ⟨rfl, session.exists_entered_setup⟩
  | cons aliasName aliases => exact .inr ⟨nofun, rfl⟩

/-- Every alias and every file name that has a highlighter keeps it. -/
structure KeepsAnswers (before after : Session) : Prop where
  get?_eq : ∀ aliasName found, before.registry.get? aliasName = some found →
    after.registry.get? aliasName = some found
  forFilename?_eq : ∀ path found, before.registry.forFilename? path = some found →
    after.registry.forFilename? path = some found

theorem KeepsAnswers.refl (session : Session) : KeepsAnswers session session :=
  ⟨fun _ _ h => h, fun _ _ h => h⟩

theorem Entered.keepsAnswers {highlighter : Highlighter} {before after : Session}
    (h : Entered highlighter before after)
    (hfree : ∀ aliasName ∈ highlighter.aliases, before.registry.get? aliasName = none) :
    KeepsAnswers before after where
  get?_eq := by
    intro aliasName found hfound
    have hnot : aliasName ∉ highlighter.aliases := by
      intro hmem
      simp [hfree aliasName hmem] at hfound
    rw [h.get?_of_not_listed aliasName hnot, hfound]
  forFilename?_eq := by
    intro path found hfound
    -- a pattern from before is asked first, so no registration takes a file name away
    have hclaims : before.registry.Claims path := by
      by_contra hnot
      simp [Registry.forFilename?_eq_none_iff.2 hnot] at hfound
    rw [h.forFilename?_of_claimed path hclaims, hfound]

/-- Asking for the defaults succeeds.  The routes lexer is set up if no alias is taken, and nothing
is done otherwise; so its alias is taken then if it was before or if none was.  Whatever had a
highlighter keeps it, and to ask again changes nothing. -/
theorem initDefaults_sets_up_if_free (session : Session) :
    let result := session.perform initDefaults
    result.1 = .ok () ∧
      (session.registry.available = [] → result.2.registry.get? "routes" = some .routes) ∧
      (session.registry.available ≠ [] → result.2 = session) ∧
      (result.2.registry.has "routes" = true ↔
        session.registry.available = [] ∨ session.registry.has "routes" = true) ∧
      KeepsAnswers session result.2 ∧
      ∀ n, (fun s : Session => (s.perform initDefaults).2)^[n] result.2 = result.2 := by
  obtain ⟨hfree, after, hperform, hentered⟩ | ⟨htaken, hperform⟩ :=
    session.perform_initDefaults_cases
  · have hroutes : after.registry.get? "routes" = some .routes :=
      hentered.get?_of_listed "routes" (by decide)
    have hhas : after.registry.has "routes" = true := by
      rw [Registry.has_eq_isSome_get?, hroutes]
      rfl
    -- the alias is taken now, so the next time nothing is done
    have hagain : after.perform initDefaults = (.ok (), after) := by
      obtain ⟨hnone, -⟩ | ⟨-, hagain⟩ := after.perform_initDefaults_cases
      · simp [Registry.get?_eq_none_of_available hnone] at hroutes
      · exact hagain
    rw [hperform]
    refine ⟨rfl, fun _ => hroutes, fun htaken => absurd hfree htaken, ?_, ?_, fun n => ?_⟩
    · exact ⟨fun _ => .inl hfree, fun _ => hhas⟩
    · apply hentered.keepsAnswers
      exact fun aliasName _ => Registry.get?_eq_none_of_available hfree aliasName
    · exact Function.iterate_fixed (congrArg Prod.snd hagain) n
  · rw [hperform]
    refine ⟨rfl, fun hfree => absurd hfree htaken, fun _ => rfl, ?_, .refl session, fun n => ?_⟩
    · exact ⟨.inr, fun h => h.resolve_left htaken⟩
    · exact Function.iterate_fixed (congrArg Prod.snd hperform) n

/-- Behind a host's own highlighter the routes lexer is not set up. -/
theorem initDefaults_behind_host :
    let session := (Session.empty.replay [.register (.plain "HOST" ["host"] ["*.host"])]).2
    (session.perform initDefaults).1 = .ok () ∧
      (session.perform initDefaults).2.registry.has "routes" = false := by
  exact ⟨rfl, by decide⟩

end Session

end RouteHighlight
