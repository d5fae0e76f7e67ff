import RouteHighlight.Proofs.Config.Settings
import RouteHighlight.Proofs.Toml.Same

/-!
# Layers, field by field

Files and overrides that are well formed never fail, and each field of the lexer is settled on its
own: by the last override of it, else by the last file that sets it, else by the default.
-/

namespace RouteHighlight.Config

/-! ## The last of a list to offer a value -/

def lastSome {X α : Type} (offer : X → Option α) (xs : List X) : Option α :=
  (xs.filterMap offer).getLast?

section

variable {X α β : Type}

@[simp] theorem lastSome_nil (offer : X → Option α) : lastSome offer [] = none := rfl

theorem lastSome_cons (offer : X → Option α) (x : X) (xs : List X) :
    lastSome offer (x :: xs) = (lastSome offer xs).or (offer x) := by
  rw [lastSome, lastSome, List.filterMap_cons]
  cases offer x with
  | none => simp
  | some a =>
      rw [List.getLast?_cons]
      cases (xs.filterMap offer).getLast? <;> rfl

theorem lastSome_map (change : α → β) (offer : X → Option α) (xs : List X) :
    (lastSome offer xs).map change = lastSome (fun x => (offer x).map change) xs := by
  rw [lastSome, ← List.getLast?_map, List.map_filterMap]
  rfl

theorem lastSome_congr {first second : X → Option α} {xs : List X}
    (h : ∀ x ∈ xs, first x = second x) : lastSome first xs = lastSome second xs := by
  induction xs with
  | nil => rfl
  | cons x xs ih =>
      obtain ⟨hx, hxs⟩ := List.forall_mem_cons.1 h
      rw [lastSome_cons, lastSome_cons, hx, ih hxs]

theorem lastSome_eq_none {offer : X → Option α} {xs : List X} (h : ∀ x ∈ xs, offer x = none) :
    lastSome offer xs = none := by
  rw [lastSome, List.filterMap_eq_nil_iff.2 h]
  rfl

/-- Steps that each take what is offered together take the last of what is offered. -/
theorem foldlM_takes {step : Value → X → Except LoadError Value}
    {offer : ∀ {α : Type}, Field α → X → Option Value} {xs : List X}
    (h : ∀ x ∈ xs, ∀ root, HasLexer root → Takes (fun field => offer field x) root (step root x))
    {root : Value} (hroot : HasLexer root) :
    Takes (fun field => lastSome (offer field) xs) root (xs.foldlM step root) := by
  induction xs generalizing root with
  | nil => exact ⟨root, rfl, hroot, fun _ => rfl⟩
  | cons x xs ih =>
      obtain ⟨hx, hxs⟩ := List.forall_mem_cons.1 h
      rw [List.foldlM_cons]
      simp only [lastSome_cons]
      exact (hx root hroot).bind fun next hnext => ih hxs hnext

end

/-! ## The loader of well-formed layers -/

def Layer.isOverride : Layer → Bool
  | .override .. => true
  | .file _ => false

def Layer.file? : Layer → Option FileLayer
  | .file layer => some layer
  | .override .. => none

/-- No key is there twice, and each is that of a field, with a value that is no table. -/
structure FieldKeyed (overrides : List (Key × Value)) : Prop where
  keys : (overrides.map (·.1)).Nodup
  fields : ∀ p ∈ overrides, ∃ (α : Type) (field : Field α), p.1 = field.key ∧ ¬ p.2.IsTable

namespace Loader

theorem mem_setIn {key : Key} {value : Value} {overrides : List (Key × Value)} {p : Key × Value}
    (h : p ∈ setIn key value overrides) : p = (key, value) ∨ p ∈ overrides := by
  induction overrides with
  | nil => exact .inl (List.mem_singleton.1 h)
  | cons q rest ih =>
      rw [setIn] at h
      split at h
      · rcases List.mem_cons.1 h with h | h
        · exact .inl h
        · exact .inr (List.mem_cons_of_mem _ h)
      · rcases List.mem_cons.1 h with rfl | h
        · exact .inr List.mem_cons_self
        · exact (ih h).imp_right (List.mem_cons_of_mem _)

theorem nodup_setIn (key : Key) (value : Value) {overrides : List (Key × Value)}
    (h : (overrides.map (·.1)).Nodup) : ((setIn key value overrides).map (·.1)).Nodup := by
  induction overrides with
  | nil => simp [setIn]
  | cons q rest ih =>
      obtain ⟨hnot, hrest⟩ := List.nodup_cons.1 h
      rw [setIn]
      split
      next heq => exact heq ▸ h
      next hne =>
        refine List.nodup_cons.2 ⟨?_, ih hrest⟩
        rw [List.mem_map]
        rintro ⟨p, hp, heq⟩
        rcases mem_setIn hp with rfl | hp
        · exact hne heq.symm
        · exact hnot (heq ▸ List.mem_map_of_mem hp)

theorem lastSome_setIn {α : Type} (field : Field α) (key : Key) (value : Value)
    {overrides : List (Key × Value)} (h : (overrides.map (·.1)).Nodup) :
    lastSome field.valueAt (setIn key value overrides) =
      (field.valueAt (key, value)).or (lastSome field.valueAt overrides) := by
  induction overrides with
  | nil => simp [setIn, lastSome_cons]
  | cons q rest ih =>
      obtain ⟨other, present⟩ := q
      obtain ⟨hnot, hrest⟩ := List.nodup_cons.1 h
      rw [setIn]
      split
      next heq =>
        -- the new value stands in the place of the old one, and so before values that were set
        -- later; none of those is under the same key
        subst heq
        by_cases hfield : other = field.key
        · have hnone : lastSome field.valueAt rest = none := lastSome_eq_none fun p hp => by
            have hmem : p.1 ∈ rest.map (·.1) := List.mem_map_of_mem hp
            exact if_neg fun heq : p.1 = field.key => hnot (hfield.trans heq.symm ▸ hmem)
          simp [lastSome_cons, hnone, Field.valueAt, hfield]
        · simp [lastSome_cons, Field.valueAt, hfield]
      next => rw [lastSome_cons, lastSome_cons, ih hrest, Option.or_assoc]

theorem fieldKeyed_setIn {α : Type} {overrides : List (Key × Value)} (h : FieldKeyed overrides)
    (field : Field α) {value : Value} (hvalue : ¬ value.IsTable) :
    FieldKeyed (setIn field.key value overrides) where
  keys := nodup_setIn _ _ h.keys
  fields p hp := by
    rcases mem_setIn hp with rfl | hp
    · exact ⟨α, field, rfl, hvalue⟩
    · exact h.fields p hp

/-- Well-formed layers are sorted: the files in order, and of the overrides the last of each
field. -/
theorem addFrom_says {dir : Directory} {layers : List Layer}
    (h : ∀ layer ∈ layers, ∃ settings, layer.Says dir settings) (loader : Loader)
    (hkeyed : FieldKeyed loader.overrides) (index : Nat) :
    ∃ next, loader.addFrom index layers = .ok next ∧
      next.files = loader.files ++ layers.filterMap Layer.file? ∧ FieldKeyed next.overrides ∧
      ∀ {α : Type} (field : Field α), lastSome field.valueAt next.overrides =
        (lastSome (Layer.part? dir field) (layers.filter Layer.isOverride)).or
          (lastSome field.valueAt loader.overrides) := by
  induction layers generalizing loader index with
  | nil => exact ⟨loader, rfl, by simp, hkeyed, fun field => rfl⟩
  | cons layer layers ih =>
      obtain ⟨⟨settings, hlayer⟩, hlayers⟩ := List.forall_mem_cons.1 h
      cases layer with
      | file layer =>
          obtain ⟨next, hnext, hfiles, hnextKeyed, hfields⟩ :=
            ih hlayers (loader.withFile layer) hkeyed (index + 1)
          refine ⟨next, hnext, ?_, hnextKeyed, hfields⟩
          simp [hfiles, withFile, Layer.file?]
      | override text value =>
          cases hlayer with
          | @override α field _ a view =>
              have hvalue := Field.not_isTable view
              obtain ⟨next, hnext, hfiles, hnextKeyed, hfields⟩ :=
                ih hlayers ⟨loader.files, setIn field.key value loader.overrides⟩
                  (fieldKeyed_setIn hkeyed field hvalue) (index + 1)
              refine ⟨next, ?_, hfiles, hnextKeyed, fun other => ?_⟩
              · rw [addFrom, add, setOverride, field.parse_keyText]
                exact hnext
              · rw [hfields, lastSome_setIn other field.key value hkeyed.keys,
                  List.filter_cons_of_pos rfl, lastSome_cons, Option.or_assoc]
                congr 2
                cases field <;> cases other <;> rfl

theorem lastSome_files {α : Type} (dir : Directory) (field : Field α) (layers : List Layer) :
    lastSome (fun layer => (Layer.file layer).part? dir field) (layers.filterMap Layer.file?) =
      lastSome (Layer.part? dir field) (layers.filter (!·.isOverride)) := by
  induction layers with
  | nil => rfl
  | cons layer layers ih =>
      cases layer with
      | file layer =>
          rw [List.filter_cons_of_pos rfl, lastSome_cons, ← ih]
          exact lastSome_cons _ layer _
      | override => exact ih

/-- Files come before overrides, wherever the overrides stood among them. -/
theorem root_takes {dir : Directory} {layers : List Layer}
    (h : ∀ layer ∈ layers, ∃ settings, layer.Says dir settings) :
    ∃ loader, ofLayers layers = .ok loader ∧
      Takes (fun field =>
        (lastSome (Layer.part? dir field) (layers.filter Layer.isOverride)).or
          (lastSome (Layer.part? dir field) (layers.filter (!·.isOverride))))
        defaults (loader.root dir) := by
  obtain ⟨loader, hloader, hfiles, hkeyed, hoverrides⟩ :=
    addFrom_says h empty ⟨List.nodup_nil, fun _ hp => nomatch hp⟩ 0
  refine ⟨loader, hloader, ?_⟩
  have hdefaults : HasLexer defaults := ⟨_, rfl, _, _, rfl⟩
  have hfile : ∀ file ∈ loader.files, ∀ root, HasLexer root →
      Takes (fun field => (Layer.file file).part? dir field) root (applyFile dir root file) := by
    intro file hmem root hroot
    rw [hfiles] at hmem
    obtain ⟨layer, hlayer, heq⟩ := List.mem_filterMap.1 hmem
    obtain ⟨settings, hsaid⟩ := h layer hlayer
    cases layer with
    | override => cases heq
    | file layer =>
        cases heq
        exact applyFile_takes hsaid hroot
  have hoverride : ∀ p ∈ loader.overrides, ∀ root, HasLexer root →
      Takes (fun field => field.valueAt p) root (setBounded root p.1 p.2) := by
    rintro ⟨key, value⟩ hmem root hroot
    obtain ⟨α, field, rfl, hvalue⟩ := hkeyed.fields _ hmem
    exact setBounded_takes field hvalue hroot
  have htakes : Takes (fun field => (lastSome field.valueAt loader.overrides).or
      (lastSome (fun layer => (Layer.file layer).part? dir field) loader.files))
      defaults (loader.root dir) :=
    (foldlM_takes hfile hdefaults).bind fun next hnext => foldlM_takes hoverride hnext
  simpa only [hoverrides, hfiles, empty, List.nil_append, lastSome_files, lastSome_nil,
    Option.or_none] using htakes

end Loader

/-! ## What is settled -/

/-- The value of a field behind all layers: that of the last override of it, else that of the last
file that sets it, else the default. -/
def settled {α : Type} (said : List (Layer × Settings)) (field : Field α) (default : α) : α :=
  ((lastSome (field.setting ·.2) (said.filter (·.1.isOverride))).or
    (lastSome (field.setting ·.2) (said.filter (!·.1.isOverride)))).getD default

def settledLexer (said : List (Layer × Settings)) : LexerConfig where
  name := settled said .name "ROUTES"
  aliases := settled said .aliases ["routes"]
  filenames := settled said .filenames ["routes", "*.routes"]
  resetOnNewline := settled said .resetOnNewline false

theorem lastSome_part? {dir : Directory} {said : List (Layer × Settings)}
    (h : ∀ p ∈ said, p.1.Says dir p.2) {α : Type} (field : Field α) (keep : Layer → Bool) :
    (lastSome (Layer.part? dir field) ((said.map (·.1)).filter keep)).map field.view? =
      (lastSome (field.setting ·.2) (said.filter (keep ·.1))).map some := by
  rw [lastSome_map, lastSome_map, List.filter_map, lastSome, List.filterMap_map]
  exact lastSome_congr fun p hp => (h p (List.mem_filter.1 hp).1).map_part? field

theorem of_settledLexer {α : Type} (said : List (Layer × Settings)) (field : Field α) :
    field.of (settledLexer said) = settled said field (field.of (settledLexer [])) := by
  cases field <;> rfl

theorem toList_defaultsText :
    defaultsText.toList = defaultsLines.flatMap fun line => line.toList ++ ['\n'] := by
  rw [defaultsText, String.toList_join]
  simp only [List.flatMap_map, String.toList_append]
  rfl

/-- The defaults are what their document says. -/
theorem parse?_defaultsText :
    (Toml.parse? defaultsText).map (fun entries =>
      Value.table none (Value.ofTomlEntries none entries)) = some defaults := by
  have hparse : Toml.parse? defaultsText = some [("lexer", .table
      [("name", .text "ROUTES"), ("aliases", .array [.text "routes"]),
        ("filenames", .array [.text "routes", .text "*.routes"]),
        ("reset_on_newline", .bool false)])] := by
    apply Toml.parse?_eq_some
    rw [Toml.parse?, toList_defaultsText]
    decide +kernel
  rw [hparse]
  rfl

theorem map_field?_defaults {α : Type} (field : Field α) :
    (defaults.field? field).map field.view? = some (some (field.of (settledLexer []))) := by
  cases field <;> rfl

/-- Layers that are well formed describe the lexer that is settled field by field. -/
theorem Loader.build_layered {dir : Directory} {said : List (Layer × Settings)}
    (h : ∀ p ∈ said, p.1.Says dir p.2) :
    ∃ loader, ofLayers (said.map (·.1)) = .ok loader ∧
      loader.build dir = .ok (settledLexer said) := by
  have hlayers : ∀ layer ∈ said.map (·.1), ∃ settings, layer.Says dir settings :=
    List.forall_mem_map.2 fun p hp => ⟨p.2, h p hp⟩
  obtain ⟨loader, hloader, root, hroot, ⟨lexer, hlexer, htable⟩, hfields⟩ := root_takes hlayers
  refine ⟨loader, hloader, ?_⟩
  have hdecode : decodeRoot root = .ok (settledLexer said) := by
    refine decodeRoot_of_fields htable hlexer fun field => ?_
    have hview : (root.field? field).map field.view? =
        some (some (field.of (settledLexer said))) := by
      -- the values are read one by one; what is left is the choice among what was said
      rw [hfields, Option.map_or, Option.map_or, lastSome_part? h, lastSome_part? h,
        map_field?_defaults, ← Option.map_or, of_settledLexer said, settled]
      cases (lastSome (field.setting ·.2) (said.filter (·.1.isOverride))).or
        (lastSome (field.setting ·.2) (said.filter (!·.1.isOverride))) <;> rfl
    rw [Value.field?_eq hlexer] at hview
    exact Option.map_eq_some_iff.1 hview
  rw [build, hroot]
  exact hdecode

def Directory.withOneFile : Directory :=
  ⟨[("a.toml", "[lexer]\nname = \"X\"\nreset_on_newline = false\nextra = 1")]⟩

theorem Directory.withOneFile_says :
    Layer.Says withOneFile (.file ⟨"a.toml", true⟩)
      { name := some "X", resetOnNewline := some false } := by
  have hfind : withOneFile.find? "a.toml" =
      some ("a.toml", "[lexer]\nname = \"X\"\nreset_on_newline = false\nextra = 1") := by
    decide +kernel
  have hparse : Toml.parse? "[lexer]\nname = \"X\"\nreset_on_newline = false\nextra = 1" =
      some [("lexer", .table
        [("name", .text "X"), ("reset_on_newline", .bool false), ("extra", .int 1)])] :=
    Toml.parse?_eq_some (by decide +kernel)
  refine .file hfind hparse ?_ (.table rfl ?_ ?_)
  · simp only [List.mem_singleton, forall_eq]
    decide
  · decide +kernel
  · intro α field
    cases field <;> rfl

def overrideFirst : List (Layer × Settings) :=
  [(.override Field.resetOnNewline.keyText (.scalar none (.bool true)),
      Field.resetOnNewline.only true),
    (.file ⟨"a.toml", true⟩, { name := some "X", resetOnNewline := some false }),
    (.file ⟨"b.toml", false⟩, {})]

theorem Loader.build_layered_override_first :
    (∀ p ∈ overrideFirst, p.1.Says .withOneFile p.2) ∧
      ∃ loader, ofLayers (overrideFirst.map (·.1)) = .ok loader ∧
        loader.build .withOneFile = .ok ⟨"X", ["routes"], ["routes", "*.routes"], true⟩ := by
  have hoverride : Layer.Says .withOneFile
      (.override Field.resetOnNewline.keyText (.scalar none (.bool true)))
      (Field.resetOnNewline.only true) := .override rfl
  have habsent : Layer.Says .withOneFile (.file ⟨"b.toml", false⟩) {} :=
    .absent (by decide +kernel)
  have hsaid : ∀ p ∈ overrideFirst, p.1.Says .withOneFile p.2 := by
    simp only [overrideFirst, List.forall_mem_cons]
    exact ⟨hoverride, Directory.withOneFile_says, habsent, nofun⟩
  exact ⟨hsaid, build_layered hsaid⟩

end RouteHighlight.Config
