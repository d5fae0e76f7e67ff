import RouteHighlight.Proofs.Glob.Matching
import RouteHighlight.Proofs.Registry.Log

/-!
# The routes lexer in a registry

Behind a set-up, the routes lexer answers for its alias until another highlighter takes it, and
for routes files unless a pattern from before the set-up matches them; then its tokens are those
of the lexer itself.
-/

namespace RouteHighlight

def Path.NamesRoutes (name : String) : Prop :=
  '\n' ∉ name.toList ∧ (name = "routes" ∨ ∃ stem, name = stem ++ ".routes")

theorem Glob.isMatch_routes {name : String} (h : Path.NamesRoutes name) :
    ∃ pattern ∈ Highlighter.routes.filenames, (ofPattern pattern).isMatch name = true := by
  obtain ⟨hline, rfl | ⟨stem, rfl⟩⟩ := h
  · exact ⟨"routes", by decide, by decide⟩
  · have hpieces : (ofPattern "*.routes").pieces = .star :: ".routes".toList.map .lit := by decide
    refine ⟨"*.routes", by decide, ?_⟩
    rw [String.toList_append] at hline
    rw [isMatch, hpieces, String.toList_append]
    exact matchPieces_star_append (fun hmem => hline (List.mem_append_left _ hmem))
      (matchPieces_lit ".routes".toList)

namespace Session

theorem replay_setup (session : Session) (calls : List Call) :
    session.replay (.setup :: calls) =
      (.routes :: ((session.perform setup).2.replay calls).1,
        ((session.perform setup).2.replay calls).2) := by
  rw [replay, Call.operation, perform_setup]
  rfl

end Session

namespace Registry

variable {before after : List Highlighter}

theorem get?_routes (hafter : ∀ highlighter ∈ after, "routes" ∉ highlighter.aliases) :
    (empty.enter (before ++ .routes :: after)).get? "routes" = some .routes := by
  have hfilter : after.filter (fun highlighter => "routes" ∈ highlighter.aliases) = [] := by
    simpa using hafter
  rw [get?_enter, List.filter_append, List.filter_cons_of_pos (by decide), hfilter]
  simp

theorem forFilename?_routes {path : String} (hname : Path.NamesRoutes (Path.baseName path))
    (hbefore : ∀ highlighter ∈ before, ∀ pattern ∈ highlighter.filenames,
      (Glob.ofPattern pattern).isMatch (Path.baseName path) = false) :
    (empty.enter (before ++ .routes :: after)).forFilename? path = some .routes := by
  -- the patterns are those from before, then the two of the routes lexer, then all others
  have howned : owned (before ++ .routes :: after) =
      owned before ++ (Highlighter.routes.filenames.map (·, .routes) ++ owned after) := by
    simp [owned]
  have hnone : (owned before).find? (fun p =>
      (Glob.ofPattern p.1).isMatch (Path.baseName path)) = none := by
    rw [List.find?_eq_none]
    simp only [owned, List.mem_flatMap, List.mem_map]
    rintro _ ⟨highlighter, hmem, pattern, hpattern, rfl⟩
    simp [hbefore highlighter hmem pattern hpattern]
  obtain ⟨pattern, hpattern, hmatch⟩ := Glob.isMatch_routes hname
  have hsome :
      ((Highlighter.routes.filenames.map fun pattern => (pattern, Highlighter.routes)).find?
        fun p => (Glob.ofPattern p.1).isMatch (Path.baseName path)).isSome = true := by
    rw [List.find?_isSome]
    exact ⟨_, List.mem_map_of_mem hpattern, hmatch⟩
  obtain ⟨found, hfound⟩ := Option.isSome_iff_exists.1 hsome
  have howner : found.2 = .routes := by
    obtain ⟨_, -, rfl⟩ := List.mem_map.1 (List.mem_of_find?_eq_some hfound)
    rfl
  rw [forFilename?_enter_empty, howned, List.find?_append, hnone, Option.none_or,
    List.find?_append, hfound, Option.some_or, Option.map_some, howner]

end Registry

/-- Behind a set-up the alias, the file name and the lexer itself give the same tokens, provided
that no later highlighter takes the alias and no earlier pattern the file. -/
theorem Session.routes_agree (before after : List Session.Call) (path source : String)
    (hafter : ∀ highlighter ∈ (((Session.empty.replay before).2.perform setup).2.replay after).1,
      "routes" ∉ highlighter.aliases)
    (hname : Path.NamesRoutes (Path.baseName path))
    (hbefore : ∀ highlighter ∈ (Session.empty.replay before).1,
      ∀ pattern ∈ highlighter.filenames,
        (Glob.ofPattern pattern).isMatch (Path.baseName path) = false) :
    let registry := (Session.empty.replay (before ++ .setup :: after)).2.registry
    registry.tokenize "routes" source = .ok (RouteHighlight.tokenize source) ∧
      registry.tokenizeFile path source = .ok (RouteHighlight.tokenize source) := by
  intro registry
  have hregistry : registry = Registry.empty.enter ((Session.empty.replay before).1 ++
      .routes :: (((Session.empty.replay before).2.perform setup).2.replay after).1) := by
    have hlog : (Session.empty.replay (before ++ .setup :: after)).1 =
        (Session.empty.replay before).1 ++
          .routes :: (((Session.empty.replay before).2.perform setup).2.replay after).1 := by
      rw [replay_append, replay_setup]
    rw [← hlog]
    exact registry_replay _ _
  rw [hregistry, Registry.tokenize, Registry.tokenizeFile, Registry.get?_routes hafter,
    Registry.forFilename?_routes hname hbefore]
  exact ⟨rfl, rfl⟩

theorem Session.routes_agree_between :
    (∀ highlighter ∈ (((Session.empty.replay
          [.register (.plain "A" ["routes"] ["*.txt"])]).2.perform setup).2.replay
          [.register (.plain "B" ["b"] ["*.routes"])]).1,
        "routes" ∉ highlighter.aliases) ∧
      Path.NamesRoutes (Path.baseName "conf/api.routes") ∧
      (∀ highlighter ∈ (Session.empty.replay [.register (.plain "A" ["routes"] ["*.txt"])]).1,
        ∀ pattern ∈ highlighter.filenames,
          (Glob.ofPattern pattern).isMatch (Path.baseName "conf/api.routes") = false) ∧
      (Session.empty.replay [.register (.plain "A" ["routes"] ["*.txt"]), .setup,
          .register (.plain "B" ["b"] ["*.routes"])]).2.registry.tokenizeFile
          "conf/api.routes" "GET /" = .ok (RouteHighlight.tokenize "GET /") := by
  have hlogBefore : (Session.empty.replay [.register (.plain "A" ["routes"] ["*.txt"])]).1 =
      [.plain "A" ["routes"] ["*.txt"]] := rfl
  have hlogAfter : (((Session.empty.replay
      [.register (.plain "A" ["routes"] ["*.txt"])]).2.perform setup).2.replay
      [.register (.plain "B" ["b"] ["*.routes"])]).1 = [.plain "B" ["b"] ["*.routes"]] := rfl
  have hafter : ∀ highlighter ∈ (((Session.empty.replay
      [.register (.plain "A" ["routes"] ["*.txt"])]).2.perform setup).2.replay
      [.register (.plain "B" ["b"] ["*.routes"])]).1, "routes" ∉ highlighter.aliases := by
    rw [hlogAfter]
    decide
  have hname : Path.NamesRoutes (Path.baseName "conf/api.routes") :=
    ⟨by decide, .inr ⟨"api", by decide⟩⟩
  have hbefore : ∀ highlighter ∈
      (Session.empty.replay [.register (.plain "A" ["routes"] ["*.txt"])]).1,
      ∀ pattern ∈ highlighter.filenames,
        (Glob.ofPattern pattern).isMatch (Path.baseName "conf/api.routes") = false := by
    rw [hlogBefore]
    decide
  exact ⟨hafter, hname, hbefore, (routes_agree _ _ _ "GET /" hafter hname hbefore).2⟩

end RouteHighlight
