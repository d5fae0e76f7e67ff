import RouteHighlight.Proofs.Path.Name
import RouteHighlight.Proofs.Registry.Log

/-!
# File names in directories

A registry sees the file name at the end of a path and nothing else of it.  Only where there is no
such name do the patterns see the path with its slashes.
-/

namespace RouteHighlight

namespace Path

variable {path name : String}

theorem baseName_of_endsIn (hname : IsName name) (h : EndsIn path name) :
    baseName path = name := by
  rw [baseName, fileName?_of_endsIn hname h]
  rfl

theorem baseName_of_fileName?_eq_none (h : fileName? path = none) : baseName path = path := by
  rw [baseName, h]
  rfl

theorem endsIn_of_mem {tail directory : String} (htail : IsTail tail)
    (hpath : path ∈ [name, name ++ tail, directory ++ "/" ++ name ++ tail]) :
    EndsIn path name := by
  simp only [List.mem_cons, List.not_mem_nil, or_false] at hpath
  rcases hpath with rfl | rfl | rfl
  · exact ⟨"", isTail_empty, .inl String.append_empty.symm⟩
  · exact ⟨tail, htail, .inl rfl⟩
  · exact ⟨tail, htail, .inr ⟨directory, rfl⟩⟩

end Path

namespace Registry

variable {registry : Registry} {path name source : String} {highlighter : Highlighter}

theorem forFilename?_of_baseName (h : Path.baseName path = name) :
    registry.forFilename? path =
      (registry.byFilename.find? fun (glob, _) => glob.isMatch name).map (·.2) := by
  subst h
  rfl

theorem tokenizeFile_of_some (h : registry.forFilename? path = some highlighter) :
    registry.tokenizeFile path source = .ok (highlighter.tokenize source) := by
  rw [tokenizeFile, h]

/-- The highlighter of a file does not depend on the directory, nor on slashes and dots behind the
name; a path without a file name is matched as a whole. -/
theorem forFilename?_ignores_directory (registry : Registry) :
    (∀ name tail directory : String, Path.IsName name → Path.IsTail tail →
      registry.forFilename? name =
          (registry.byFilename.find? fun (glob, _) => glob.isMatch name).map (·.2) ∧
        ∀ path ∈ [name, name ++ tail, directory ++ "/" ++ name ++ tail],
          registry.forFilename? path = registry.forFilename? name ∧
          (∀ highlighter, registry.forFilename? name = some highlighter → ∀ source,
            registry.tokenizeFile path source = .ok (highlighter.tokenize source)) ∧
          (registry.forFilename? name = none → ∀ source,
            registry.tokenizeFile path source = .error (.noLexerForFilename path))) ∧
      ∀ path, (Path.EndsIn path ".." ∨ ∀ name, Path.IsName name → ¬ Path.EndsIn path name) →
        registry.forFilename? path =
          (registry.byFilename.find? fun (glob, _) => glob.isMatch path).map (·.2) := by
  constructor
  · intro name tail directory hname htail
    have hself : Path.baseName name = name :=
      Path.baseName_of_endsIn hname ⟨"", Path.isTail_empty, .inl String.append_empty.symm⟩
    refine ⟨forFilename?_of_baseName hself, fun path hpath => ?_⟩
    have hbase : Path.baseName path = name :=
      Path.baseName_of_endsIn hname (Path.endsIn_of_mem htail hpath)
    have hfile : registry.forFilename? path = registry.forFilename? name := by
      rw [forFilename?_of_baseName hbase, forFilename?_of_baseName hself]
    refine ⟨hfile, fun highlighter hfound source => ?_, fun hnone source => ?_⟩
    · exact tokenizeFile_of_some (hfile.trans hfound)
    · exact (tokenizeFile_eq_notFound_iff _ _ _).2 (hfile.trans hnone)
  · intro path hpath
    have hnone : Path.fileName? path = none := by
      rcases hpath with hup | hname
      · exact Path.fileName?_of_endsIn_up hup
      · exact Path.fileName?_eq_none_iff.2 hname
    exact forFilename?_of_baseName (Path.baseName_of_fileName?_eq_none hnone)

theorem forFilename?_ignores_directory_left_again :
    Path.IsName "api.routes" ∧ Path.IsTail "/.//." ∧
      (Session.empty.perform Session.setup).2.registry.tokenizeFile "/a/.././b/api.routes/.//."
          "GET /" =
        .ok (RouteHighlight.tokenize "GET /") := by
  have hname : Path.IsName "api.routes" := ⟨by decide, by decide, by decide, by decide⟩
  have htail : Path.IsTail "/.//." := ⟨["/.", "/", "/."], by decide, rfl⟩
  refine ⟨hname, htail, ?_⟩
  have hfiles := (forFilename?_ignores_directory (Session.empty.perform Session.setup).2.registry).1
    "api.routes" "/.//." "/a/.././b" hname htail
  exact (hfiles.2 _ (by simp)).2.1 .routes rfl "GET /"

end Registry

end RouteHighlight
