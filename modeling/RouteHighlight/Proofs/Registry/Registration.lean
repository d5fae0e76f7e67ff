import RouteHighlight.Proofs.Registry.Log

/-!
# Registration is all or nothing

A registration enters a highlighter under all of its aliases and all of its patterns.  If one of the
patterns cannot be compiled it does nothing at all, whatever the others are and whoever has the
aliases: the session is the one from before, log included, and the error names the first such
pattern.
-/

namespace RouteHighlight

theorem LexError.tooLarge_eq (pattern : String) :
    tooLarge pattern = .invalidPattern
      (pattern ++ ": Compiled regex exceeds size limit of 10485760 bytes.") := by
  have htext : ": Compiled regex exceeds size limit of " ++
      (String.ofList (Decimal.digitsText Glob.sizeLimit) ++ " bytes.") =
        ": Compiled regex exceeds size limit of 10485760 bytes." := by decide
  rw [tooLarge, String.append_assoc, String.append_assoc, htext]

namespace Registry

/-! ## One more highlighter in a registry -/

def Claims (registry : Registry) (path : String) : Prop :=
  ∃ entry ∈ registry.byFilename, entry.1.isMatch (Path.baseName path) = true

section Insert

variable {registry other : Registry} {highlighter : Highlighter} {globs : List Glob}
  {aliasName path : String}

theorem forFilename?_eq_none_iff : registry.forFilename? path = none ↔ ¬ registry.Claims path := by
  simp [forFilename?, Claims]

theorem forFilename?_insert :
    (registry.insert highlighter globs).forFilename? path =
      (registry.forFilename? path).or
        ((globs.find? (·.isMatch (Path.baseName path))).map fun _ => highlighter) := by
  simp only [forFilename?, insert, List.find?_append, List.find?_map, Option.map_or,
    Option.map_map]
  rfl

theorem forFilename?_insert_of_claims (h : registry.Claims path) :
    (registry.insert highlighter globs).forFilename? path = registry.forFilename? path := by
  rw [forFilename?_insert]
  cases hfound : registry.forFilename? path with
  | none => exact absurd h (forFilename?_eq_none_iff.1 hfound)
  | some found => rfl

theorem forFilename?_insert_of_isMatch (h : ¬ registry.Claims path)
    (hmatch : ∃ glob ∈ globs, glob.isMatch (Path.baseName path) = true) :
    (registry.insert highlighter globs).forFilename? path = some highlighter := by
  obtain ⟨glob, hglob⟩ := Option.isSome_iff_exists.1 (List.find?_isSome.2 hmatch)
  rw [forFilename?_insert, forFilename?_eq_none_iff.2 h, hglob]
  rfl

theorem mem_available_insert :
    aliasName ∈ (registry.insert highlighter globs).available ↔
      aliasName ∈ highlighter.aliases ∨ aliasName ∈ registry.available := by
  rw [mem_available_iff, mem_available_iff, has_eq_isSome_get?, has_eq_isSome_get?, get?_insert]
  split <;> simp_all

theorem has_congr (h : registry.get? aliasName = other.get? aliasName) :
    registry.has aliasName = other.has aliasName := by
  rw [has_eq_isSome_get?, h, has_eq_isSome_get?]

theorem tokenize_congr (h : registry.get? aliasName = other.get? aliasName) (source : String) :
    registry.tokenize aliasName source = other.tokenize aliasName source := by
  rw [tokenize, h, tokenize]

theorem tokenizeFile_congr (h : registry.forFilename? path = other.forFilename? path)
    (source : String) : registry.tokenizeFile path source = other.tokenizeFile path source := by
  rw [tokenizeFile, h, tokenizeFile]

end Insert

end Registry

namespace Session

/-! ## The two outcomes -/

def FirstBad (patterns : List String) (pattern : String) : Prop :=
  ∃ front back, patterns = front ++ pattern :: back ∧
    (∀ good ∈ front, (Glob.compile? good).isSome = true) ∧ Glob.compile? pattern = none

theorem find?_bad_eq_some_iff (patterns : List String) (pattern : String) :
    patterns.find? (fun pattern => (Glob.compile? pattern).isNone) = some pattern ↔
      FirstBad patterns pattern := by
  rw [List.find?_eq_some_iff_append, Option.isNone_iff_eq_none]
  constructor
  · rintro ⟨hbad, front, back, rfl, hfront⟩
    exact ⟨front, back, rfl, fun good hgood => by simpa using hfront good hgood, hbad⟩
  · rintro ⟨front, back, rfl, hfront, hbad⟩
    exact ⟨hbad, front, back, rfl, fun good hgood => by simpa using hfront good hgood⟩

/-- A session before and after a highlighter was entered: there is one more event in the log, all
aliases and all patterns count, and other aliases and file names that were claimed before give the
answers of before. -/
structure Entered (highlighter : Highlighter) (before after : Session) : Prop where
  events_eq : after.events = before.events ++
    [.registering highlighter.name highlighter.aliases highlighter.filenames]
  get?_of_listed : ∀ aliasName ∈ highlighter.aliases,
    after.registry.get? aliasName = some highlighter
  get?_of_not_listed : ∀ aliasName ∉ highlighter.aliases,
    after.registry.get? aliasName = before.registry.get? aliasName
  has_of_not_listed : ∀ aliasName ∉ highlighter.aliases,
    after.registry.has aliasName = before.registry.has aliasName
  tokenize_of_not_listed : ∀ aliasName ∉ highlighter.aliases, ∀ source,
    after.registry.tokenize aliasName source = before.registry.tokenize aliasName source
  mem_available_iff : ∀ aliasName, aliasName ∈ after.registry.available ↔
    aliasName ∈ highlighter.aliases ∨ aliasName ∈ before.registry.available
  byFilename_eq : after.registry.byFilename = before.registry.byFilename ++
    highlighter.filenames.map fun pattern => (Glob.ofPattern pattern, highlighter)
  forFilename?_of_claimed : ∀ path, before.registry.Claims path →
    after.registry.forFilename? path = before.registry.forFilename? path
  tokenizeFile_of_claimed : ∀ path, before.registry.Claims path → ∀ source,
    after.registry.tokenizeFile path source = before.registry.tokenizeFile path source
  forFilename?_of_not_claimed : ∀ path, ¬ before.registry.Claims path →
    ∀ pattern ∈ highlighter.filenames,
      (Glob.ofPattern pattern).isMatch (Path.baseName path) = true →
        after.registry.forFilename? path = some highlighter

theorem entered_insert (session : Session) (highlighter : Highlighter) :
    Entered highlighter session
      ⟨session.registry.insert highlighter (highlighter.filenames.map Glob.ofPattern),
        session.events ++
          [.registering highlighter.name highlighter.aliases highlighter.filenames]⟩ := by
  have hother (aliasName : String) (hmem : aliasName ∉ highlighter.aliases) :=
    (session.registry.get?_insert aliasName highlighter
      (highlighter.filenames.map Glob.ofPattern)).trans (if_neg hmem)
  exact {
    events_eq := rfl
    get?_of_listed := fun aliasName hmem =>
      (session.registry.get?_insert aliasName highlighter _).trans (if_pos hmem)
    get?_of_not_listed := hother
    has_of_not_listed := fun aliasName hmem => Registry.has_congr (hother aliasName hmem)
    tokenize_of_not_listed := fun aliasName hmem =>
      Registry.tokenize_congr (hother aliasName hmem)
    mem_available_iff := fun _ => Registry.mem_available_insert
    byFilename_eq := by simp [Registry.insert]
    forFilename?_of_claimed := fun _ => Registry.forFilename?_insert_of_claims
    tokenizeFile_of_claimed := fun _ hclaims =>
      Registry.tokenizeFile_congr (Registry.forFilename?_insert_of_claims hclaims)
    forFilename?_of_not_claimed := fun _ hclaims _ hpattern hmatch =>
      Registry.forFilename?_insert_of_isMatch hclaims
        ⟨_, List.mem_map_of_mem hpattern, hmatch⟩ }

/-- A registration fails exactly if a pattern cannot be compiled.  Then the error names the first
such pattern, and the session is as before; otherwise the highlighter is entered as a whole. -/
theorem register_all_or_nothing (session : Session) (highlighter : Highlighter) :
    let result := session.perform (register highlighter)
    ((∃ error, result.1 = .error error) ↔
        ∃ pattern ∈ highlighter.filenames, Glob.compile? pattern = none) ∧
      (∀ error, result.1 = .error error → result.2 = session ∧
        ∃ pattern, FirstBad highlighter.filenames pattern ∧ error = .invalidPattern
          (pattern ++ ": Compiled regex exceeds size limit of 10485760 bytes.")) ∧
      (result.1 = .ok () → Entered highlighter session result.2) := by
  intro result
  have hperform : result = _ := session.perform_register highlighter
  cases hfind : highlighter.filenames.find? fun pattern => (Glob.compile? pattern).isNone with
  | some pattern =>
      rw [hfind] at hperform
      have hbad : ∃ pattern ∈ highlighter.filenames, Glob.compile? pattern = none :=
        ⟨pattern, List.mem_of_find?_eq_some hfind, by simpa using List.find?_some hfind⟩
      rw [hperform]
      refine ⟨⟨fun _ => hbad, fun _ => ⟨_, rfl⟩⟩, ?_, nofun⟩
      rintro error ⟨⟩
      exact ⟨rfl, pattern, (find?_bad_eq_some_iff _ _).1 hfind, LexError.tooLarge_eq pattern⟩
  | none =>
      rw [hfind] at hperform
      rw [hperform]
      refine ⟨⟨nofun, ?_⟩, nofun, fun _ => entered_insert session highlighter⟩
      rintro ⟨pattern, hpattern, hbad⟩
      simpa [hbad] using List.find?_eq_none.1 hfind pattern hpattern

end Session

end RouteHighlight
