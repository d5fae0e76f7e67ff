import RouteHighlight.Proofs.Glob.Matching
import RouteHighlight.Registry.Session

/-!
# Registries and their logs

A registry is what its successful registrations make of it, in order: an alias belongs to the last
highlighter that lists it, a file to the first pattern that matches its base name.  Registrations
that fail leave nothing behind.
-/

namespace RouteHighlight

namespace Session

/-! ## Operations -/

section Operations

variable {α β : Type} {session next : Session} {operation : SessionM α}

def perform (session : Session) (operation : SessionM α) : Except LexError α × Session :=
  operation.run.run session

theorem perform_pure (session : Session) (a : α) : session.perform (pure a) = (.ok a, session) :=
  rfl

theorem perform_bind_of_ok {a : α} (f : α → SessionM β)
    (h : session.perform operation = (.ok a, next)) :
    session.perform (operation >>= f) = next.perform (f a) := by
  unfold perform at h ⊢
  rw [ExceptT.run_bind, StateT.run_bind, h]
  rfl

theorem perform_bind_of_error {error : LexError} (f : α → SessionM β)
    (h : session.perform operation = (.error error, next)) :
    session.perform (operation >>= f) = (.error error, next) := by
  unfold perform at h ⊢
  rw [ExceptT.run_bind, StateT.run_bind, h]
  rfl

end Operations

/-! ## Registration -/

theorem perform_compile (session : Session) (pattern : String) :
    session.perform (compile pattern) =
      match Glob.compile? pattern with
      | some glob => (.ok glob, session)
      | none => (.error (.tooLarge pattern), session) := by
  unfold compile
  cases Glob.compile? pattern <;> rfl

theorem perform_mapM_compile (session : Session) (patterns : List String) :
    session.perform (patterns.mapM compile) =
      match patterns.find? fun pattern => (Glob.compile? pattern).isNone with
      | some pattern => (.error (.tooLarge pattern), session)
      | none => (.ok (patterns.map Glob.ofPattern), session) := by
  induction patterns with
  | nil => rfl
  | cons pattern patterns ih =>
      have hcompile := session.perform_compile pattern
      rw [List.mapM_cons]
      cases hpattern : Glob.compile? pattern with
      | none =>
          rw [hpattern] at hcompile
          rw [perform_bind_of_error _ hcompile]
          simp [hpattern]
      | some glob =>
          rw [hpattern] at hcompile
          rw [perform_bind_of_ok _ hcompile, List.find?_cons_of_neg (by simp [hpattern])]
          cases hfind : patterns.find? fun pattern => (Glob.compile? pattern).isNone with
          | some bad =>
              rw [hfind] at ih
              rw [perform_bind_of_error _ ih]
          | none =>
              rw [hfind] at ih
              rw [perform_bind_of_ok _ ih, perform_pure, Glob.eq_ofPattern_of_compile? hpattern]
              rfl

/-- A highlighter is entered as a whole, or not at all. -/
theorem perform_register (session : Session) (highlighter : Highlighter) :
    session.perform (register highlighter) =
      match highlighter.filenames.find? fun pattern => (Glob.compile? pattern).isNone with
      | some pattern => (.error (.tooLarge pattern), session)
      | none =>
        (.ok (), ⟨session.registry.insert highlighter (highlighter.filenames.map Glob.ofPattern),
          session.events ++
            [.registering highlighter.name highlighter.aliases highlighter.filenames]⟩) := by
  have hmap := session.perform_mapM_compile highlighter.filenames
  unfold register
  cases hfind : highlighter.filenames.find? fun pattern => (Glob.compile? pattern).isNone with
  | some pattern =>
      rw [hfind] at hmap
      rw [perform_bind_of_error _ hmap]
  | none =>
      rw [hfind] at hmap
      rw [perform_bind_of_ok _ hmap]
      rfl

/-- The patterns of the usual lexer can be compiled. -/
theorem perform_setup (session : Session) :
    session.perform setup =
      (.ok (), ⟨session.registry.insert .routes (Highlighter.routes.filenames.map Glob.ofPattern),
        session.events ++ [.registering Highlighter.routes.name Highlighter.routes.aliases
          Highlighter.routes.filenames]⟩) := by
  have hcompiles : Highlighter.routes.filenames.find?
      (fun pattern => (Glob.compile? pattern).isNone) = none := by decide
  have hperform := session.perform_register .routes
  rw [hcompiles] at hperform
  exact hperform

/-! ## The log -/

inductive Call where
  | register (highlighter : Highlighter)
  | setup

namespace Call

def highlighter : Call → Highlighter
  | register highlighter => highlighter
  | setup => .routes

def operation : Call → SessionM Unit
  | register highlighter => Session.register highlighter
  | setup => Session.setup

theorem operation_eq (call : Call) : call.operation = Session.register call.highlighter := by
  cases call <;> rfl

end Call

/-- Makes calls one after another, whether they succeed or not.  The result has the highlighters of
those that succeed, in order, and the session behind all. -/
def replay (session : Session) : List Call → List Highlighter × Session
  | [] => ([], session)
  | call :: calls =>
    match session.perform call.operation with
    | (.ok (), next) =>
      let (log, last) := replay next calls
      (call.highlighter :: log, last)
    | (.error _, next) => replay next calls

theorem replay_append (session : Session) (before after : List Call) :
    session.replay (before ++ after) =
      ((session.replay before).1 ++ ((session.replay before).2.replay after).1,
        ((session.replay before).2.replay after).2) := by
  induction before generalizing session with
  | nil => rfl
  | cons call before ih =>
      rw [List.cons_append, replay, replay]
      split <;> rw [ih]
      rfl

end Session

namespace Registry

def enter (registry : Registry) (log : List Highlighter) : Registry :=
  log.foldl (fun registry highlighter =>
    registry.insert highlighter (highlighter.filenames.map Glob.ofPattern)) registry

end Registry

/-- Only the calls that succeed count. -/
theorem Session.registry_replay (session : Session) (calls : List Call) :
    (session.replay calls).2.registry = session.registry.enter (session.replay calls).1 := by
  induction calls generalizing session with
  | nil => rfl
  | cons call calls ih =>
      have hperform := session.perform_register call.highlighter
      rw [← call.operation_eq] at hperform
      rw [replay, hperform]
      cases hfind : call.highlighter.filenames.find? fun pattern =>
        (Glob.compile? pattern).isNone with
      | some pattern => exact ih session
      | none => exact ih _

namespace Registry

/-! ## Aliases -/

section Aliases

variable (registry : Registry) (aliasName : String)

theorem get?_insert (highlighter : Highlighter) (globs : List Glob) :
    (registry.insert highlighter globs).get? aliasName =
      if aliasName ∈ highlighter.aliases then some highlighter else registry.get? aliasName := by
  simp only [insert, get?]
  generalize registry.byAlias = byAlias
  induction highlighter.aliases generalizing byAlias with
  | nil => simp
  | cons other aliases ih =>
      rw [List.foldl_cons, ih, Std.TreeMap.get?_eq_getElem?, Std.TreeMap.getElem?_insert,
        Std.TreeMap.get?_eq_getElem?]
      grind

/-- The last highlighter that lists an alias has it. -/
theorem get?_enter (log : List Highlighter) :
    (registry.enter log).get? aliasName =
      (log.filter fun highlighter => aliasName ∈ highlighter.aliases).getLast?.or
        (registry.get? aliasName) := by
  induction log generalizing registry with
  | nil => rfl
  | cons highlighter log ih =>
      have hcons := ih (registry.insert highlighter (highlighter.filenames.map Glob.ofPattern))
      rw [get?_insert] at hcons
      refine hcons.trans ?_
      by_cases hmem : aliasName ∈ highlighter.aliases
      · rw [if_pos hmem, List.filter_cons_of_pos (by simpa using hmem), List.getLast?_cons]
        cases (log.filter fun highlighter => aliasName ∈ highlighter.aliases).getLast? <;> rfl
      · rw [if_neg hmem, List.filter_cons_of_neg (by simpa using hmem)]

theorem has_eq_isSome_get? : registry.has aliasName = (registry.get? aliasName).isSome :=
  Std.TreeMap.contains_eq_isSome_getElem?

theorem mem_available_iff : aliasName ∈ registry.available ↔ registry.has aliasName = true := by
  rw [available, Std.TreeMap.mem_keys, has, Std.TreeMap.contains_iff_mem]

theorem tokenize_ne_notFound_iff (source : String) :
    registry.tokenize aliasName source ≠ .error (.lexerNotFound aliasName) ↔
      registry.has aliasName = true := by
  rw [has_eq_isSome_get?, tokenize]
  cases registry.get? aliasName <;> simp

theorem pairwise_available : registry.available.Pairwise (· < ·) := by
  refine Std.TreeMap.ordered_keys.imp fun h => ?_
  exact compareOfLessAndEq_eq_lt.1 h

end Aliases

/-! ## File names -/

def owned (log : List Highlighter) : List (String × Highlighter) :=
  log.flatMap fun highlighter => highlighter.filenames.map (·, highlighter)

theorem byFilename_enter (registry : Registry) (log : List Highlighter) :
    (registry.enter log).byFilename =
      registry.byFilename ++ (owned log).map fun (pattern, highlighter) =>
        (Glob.ofPattern pattern, highlighter) := by
  induction log generalizing registry with
  | nil => simp [enter, owned]
  | cons highlighter log ih =>
      have hcons := ih (registry.insert highlighter (highlighter.filenames.map Glob.ofPattern))
      refine hcons.trans ?_
      simp [insert, owned]

theorem length_byFilename_enter_empty (log : List Highlighter) :
    (empty.enter log).byFilename.length = (owned log).length := by
  simp [byFilename_enter, empty]

/-- The first pattern that matches the base name decides. -/
theorem forFilename?_enter_empty (log : List Highlighter) (path : String) :
    (empty.enter log).forFilename? path =
      ((owned log).find? fun p =>
        (Glob.ofPattern p.1).isMatch (Path.baseName path)).map (·.2) := by
  simp only [forFilename?, byFilename_enter, empty, List.nil_append, List.find?_map,
    Option.map_map]
  rfl

theorem tokenizeFile_eq_notFound_iff (registry : Registry) (path source : String) :
    registry.tokenizeFile path source = .error (.noLexerForFilename path) ↔
      registry.forFilename? path = none := by
  rw [tokenizeFile]
  cases registry.forFilename? path <;> simp

/-! ## Everything that a registry answers -/

theorem summary_of_length {registry : Registry} {count : Nat}
    (h : registry.byFilename.length = count) :
    registry.summary = "LexerRegistry \x7b aliases: " ++ Text.quotedList registry.available ++
      ", filename_patterns: " ++ String.ofList (Decimal.digitsText count) ++ " \x7d" := by
  subst h
  rfl

structure Reflects (registry : Registry) (log : List Highlighter) : Prop where
  get?_eq : ∀ aliasName, registry.get? aliasName =
    (log.filter fun highlighter => aliasName ∈ highlighter.aliases).getLast?
  has_iff_get? : ∀ aliasName,
    registry.has aliasName = true ↔ (registry.get? aliasName).isSome = true
  has_iff_mem_available : ∀ aliasName,
    registry.has aliasName = true ↔ aliasName ∈ registry.available
  has_iff_tokenize : ∀ aliasName source,
    registry.has aliasName = true ↔
      registry.tokenize aliasName source ≠ .error (.lexerNotFound aliasName)
  available_sorted : registry.available.Pairwise (· < ·)
  mem_available_iff_listed : ∀ aliasName,
    aliasName ∈ registry.available ↔ ∃ highlighter ∈ log, aliasName ∈ highlighter.aliases
  forFilename?_eq : ∀ path, registry.forFilename? path =
    ((owned log).find? fun (pattern, _) =>
      (Glob.ofPattern pattern).isMatch (Path.baseName path)).map (·.2)
  tokenizeFile_iff : ∀ path source,
    registry.tokenizeFile path source = .error (.noLexerForFilename path) ↔
      registry.forFilename? path = none
  summary_eq : registry.summary = "LexerRegistry \x7b aliases: " ++
    Text.quotedList registry.available ++ ", filename_patterns: " ++
    String.ofList (Decimal.digitsText (owned log).length) ++ " \x7d"

theorem reflects_enter (log : List Highlighter) : (empty.enter log).Reflects log := by
  have hget (aliasName : String) : (empty.enter log).get? aliasName =
      (log.filter fun highlighter => aliasName ∈ highlighter.aliases).getLast? := by
    rw [get?_enter]
    exact Option.or_none
  refine ⟨hget, ?_, ?_, ?_, pairwise_available _, ?_, forFilename?_enter_empty log, ?_, ?_⟩
  · intro aliasName
    rw [has_eq_isSome_get?]
  · exact fun aliasName => (mem_available_iff _ aliasName).symm
  · exact fun aliasName source => (tokenize_ne_notFound_iff _ aliasName source).symm
  · intro aliasName
    rw [mem_available_iff, has_eq_isSome_get?, hget, Option.isSome_iff_ne_none, ne_eq,
      List.getLast?_eq_none_iff, List.filter_eq_nil_iff]
    simp
  · exact tokenizeFile_eq_notFound_iff _
  · exact summary_of_length (length_byFilename_enter_empty log)

end Registry

/-- Whatever calls were made on an empty registry, its answers are those that the log of the
successful ones gives. -/
theorem Session.replay_reflects_log (calls : List Session.Call) :
    (Session.empty.replay calls).2.registry.Reflects (Session.empty.replay calls).1 := by
  rw [Session.registry_replay]
  exact Registry.reflects_enter _

end RouteHighlight
