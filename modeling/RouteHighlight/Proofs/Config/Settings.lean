import RouteHighlight.Proofs.Config.Decode
import RouteHighlight.Proofs.Text.Lowercase
import RouteHighlight.Proofs.Toml.Distinct

/-!
# What a layer says about the fields

A well-formed layer sets some fields of a lexer.  When its turn comes, those fields take its values
and the others keep theirs, whatever else a file holds.
-/

namespace RouteHighlight.Config

open Text (lowercase)

/-! ## Well-formed layers -/

structure Settings where
  name : Option String := none
  aliases : Option (List String) := none
  filenames : Option (List String) := none
  resetOnNewline : Option Bool := none

namespace Field

variable {α : Type}

def setting : Field α → Settings → Option α
  | name => Settings.name
  | aliases => Settings.aliases
  | filenames => Settings.filenames
  | resetOnNewline => Settings.resetOnNewline

def only : Field α → α → Settings
  | name, text => { name := some text }
  | aliases, texts => { aliases := some texts }
  | filenames, texts => { filenames := some texts }
  | resetOnNewline, b => { resetOnNewline := some b }

def toToml : Field α → α → Toml.Value
  | name, text => .text text
  | aliases, texts => .array (texts.map .text)
  | filenames, texts => .array (texts.map .text)
  | resetOnNewline, b => .bool b

def labels : List String := ["name", "aliases", "filenames", "reset_on_newline"]

def keyText (field : Field α) : String := "lexer." ++ field.label

def key (field : Field α) : Key := ⟨"lexer", [.child field.label]⟩

end Field

def Key.IsLowerName (name : String) : Prop :=
  name ≠ "" ∧ ∀ c ∈ name.toList, isNameChar c = true ∧ ¬ ('A' ≤ c ∧ c ≤ 'Z')

instance (name : String) : Decidable (Key.IsLowerName name) :=
  decidable_of_iff (name ≠ "" ∧ name.toList.all fun c =>
    Key.isNameChar c && !decide ('A' ≤ c ∧ c ≤ 'Z')) <| by
    simp only [Key.IsLowerName, List.all_eq_true, Bool.and_eq_true, Bool.not_eq_true',
      decide_eq_false_iff_not]

/-- The fields that a document sets under `lexer`, which is a table if it is there.  Each has a
value of its own type, and no other name of the table becomes one of theirs in lower case. -/
inductive Settings.InDocument : List (String × Toml.Value) → Settings → Prop where
  | silent {entries : List (String × Toml.Value)} (absent : entries.lookup "lexer" = none) :
      InDocument entries {}
  | table {entries table : List (String × Toml.Value)} {settings : Settings}
      (found : entries.lookup "lexer" = some (.table table))
      (others : ∀ p ∈ table, p.1 ∉ Field.labels → lowercase p.1 ∉ Field.labels)
      (fields : ∀ {α : Type} (field : Field α),
        table.lookup field.label = (field.setting settings).map field.toToml) :
      InDocument entries settings

/-- A layer is well formed, and sets these fields. -/
inductive Layer.Says (dir : Directory) : Layer → Settings → Prop where
  | absent {path : String} (missing : dir.find? path = none) : Says dir (.file ⟨path, false⟩) {}
  | file {layer : FileLayer} {uri text : String} {entries : List (String × Toml.Value)}
      {settings : Settings} (found : dir.find? layer.path = some (uri, text))
      (parsed : Toml.parse? text = some entries) (names : ∀ p ∈ entries, Key.IsLowerName p.1)
      (document : settings.InDocument entries) : Says dir (.file layer) settings
  | override {α : Type} {field : Field α} {value : Value} {a : α}
      (view : field.view? value = some a) :
      Says dir (.override field.keyText value) (field.only a)

/-! ## Names -/

namespace Key

theorem isSmall_of_isNameChar {c : Char} (h : isNameChar c = true)
    (hcapital : ¬ ('A' ≤ c ∧ c ≤ 'Z')) : Text.IsSmall c := by
  simp only [isNameChar, Bool.or_eq_true, Bool.and_eq_true, decide_eq_true_eq, beq_iff_eq] at h
  have hle (a b : Char) : a ≤ b ↔ a.toNat ≤ b.toNat := Iff.rfl
  unfold Text.IsSmall
  rcases h with ((((hsmall | hlarge) | hdigit) | rfl) | rfl) | rfl
  · simp [hle] at hsmall ⊢
    omega
  · exact absurd hlarge hcapital
  · simp [hle] at hdigit ⊢
    omega
  all_goals decide

theorem IsLowerName.lowercase_eq {name : String} (h : IsLowerName name) : lowercase name = name :=
  Text.lowercase_of_isSmall fun c hc => isSmall_of_isNameChar (h.2 c hc).1 (h.2 c hc).2

theorem parse_of_nameChars {name : String} (hne : name ≠ "")
    (hname : ∀ c ∈ name.toList, isNameChar c = true) : parse name = .ok ⟨name, []⟩ := by
  have hempty : name.toList.isEmpty = false := by
    rw [List.isEmpty_eq_false_iff, ne_eq, String.toList_eq_nil_iff]
    exact hne
  have htake : name.toList.takeWhile isNameChar = name.toList := by
    simpa using @List.takeWhile_append_of_pos _ _ _ [] hname
  have hdrop : name.toList.dropWhile isNameChar = [] := by
    simpa using @List.dropWhile_append_of_pos _ _ _ [] hname
  simp only [parse, htake, hdrop, hempty]
  rw [String.ofList_toList]
  rfl

theorem IsLowerName.topLevelKey_eq {name : String} (h : IsLowerName name) :
    Loader.topLevelKey name = ⟨name, []⟩ := by
  rw [Loader.topLevelKey, parse_of_nameChars h.1 fun c hc => (h.2 c hc).1]

end Key

namespace Field

variable {α : Type}

theorem label_mem (field : Field α) : field.label ∈ labels := by
  cases field <;> decide

theorem lowercase_of_mem {name : String} (h : name ∈ labels) : lowercase name = name := by
  have hall : ∀ name ∈ labels, lowercase name = name := by decide +kernel
  exact hall name h

theorem lowercase_label (field : Field α) : lowercase field.label = field.label :=
  lowercase_of_mem field.label_mem

theorem parse_keyText (field : Field α) : Key.parse field.keyText = .ok field.key := by
  cases field <;> rfl

end Field

theorem lowercase_lexer : lowercase "lexer" = "lexer" := by decide +kernel

/-! ## The value that a layer gives a field -/

def Layer.part? {α : Type} (dir : Directory) (field : Field α) : Layer → Option Value
  | .file layer => do
    let (uri, text) ← dir.find? layer.path
    let entries ← Toml.parse? text
    match entries.lookup "lexer" with
    | some (.table table) => (table.lookup field.label).map (Value.ofToml (some uri))
    | _ => none
  | .override key value => if key = field.keyText then some value else none

theorem Value.ofTomlItems_eq_map (origin : Option String) (items : List Toml.Value) :
    Value.ofTomlItems origin items = items.map (Value.ofToml origin) := by
  induction items with
  | nil => rfl
  | cons item items ih => rw [ofTomlItems, ih, List.map_cons]

theorem Value.texts?_ofToml (origin : Option String) (texts : List String) :
    (Value.ofToml origin (.array (texts.map .text))).texts? = some texts := by
  rw [ofToml, ofTomlItems_eq_map, texts?]
  induction texts with
  | nil => rfl
  | cons s texts ih =>
      simp only [List.map_cons, List.mapM_cons, ih]
      rfl

/-- What a document writes for a field is read as it was meant. -/
theorem Field.view?_toToml {α : Type} (field : Field α) (origin : Option String) (a : α) :
    field.view? (Value.ofToml origin (field.toToml a)) = some a := by
  cases field with
  | name => rfl
  | aliases => exact Value.texts?_ofToml origin a
  | filenames => exact Value.texts?_ofToml origin a
  | resetOnNewline => rfl

theorem Field.not_isTable {α : Type} {field : Field α} {value : Value} {a : α}
    (h : field.view? value = some a) : ¬ value.IsTable := by
  rintro ⟨origin, entries, rfl⟩
  cases field <;> cases h

theorem Layer.part?_file {dir : Directory} {layer : FileLayer} {uri text : String}
    {entries : List (String × Toml.Value)} {settings : Settings}
    (found : dir.find? layer.path = some (uri, text)) (parsed : Toml.parse? text = some entries)
    (document : settings.InDocument entries) {α : Type} (field : Field α) :
    (Layer.file layer).part? dir field =
      (field.setting settings).map fun a => Value.ofToml (some uri) (field.toToml a) := by
  cases document with
  | silent absent => cases field <;> simp [part?, found, parsed, absent, Field.setting]
  | table hlexer others fields =>
      simp [part?, found, parsed, hlexer, fields field, Function.comp_def]

theorem Layer.Says.map_part? {dir : Directory} {layer : Layer} {settings : Settings}
    (h : layer.Says dir settings) {α : Type} (field : Field α) :
    (layer.part? dir field).map field.view? = (field.setting settings).map some := by
  cases h with
  | absent missing => cases field <;> simp [part?, missing, Field.setting]
  | file found parsed names document =>
      rw [part?_file found parsed document, Option.map_map]
      simp only [Function.comp_def, Field.view?_toToml]
  | @override β other value b view =>
      cases other <;> cases field <;>
        simp_all [part?, Field.keyText, Field.label, Field.setting, Field.only]

/-! ## The effect of a layer -/

def HasLexer (root : Value) : Prop := ∃ lexer, root.entry? "lexer" = some lexer ∧ lexer.IsTable

def Value.field? {α : Type} (root : Value) (field : Field α) : Option Value := do
  let lexer ← root.entry? "lexer"
  lexer.entry? field.label

theorem Value.field?_eq {α : Type} {root lexer : Value} (h : root.entry? "lexer" = some lexer)
    (field : Field α) : root.field? field = lexer.entry? field.label := by
  rw [field?, h]
  rfl

/-- The result is a configuration with a lexer, in which a field has the value that is offered for
it, or else the one that it had. -/
def Takes (offer : ∀ {α : Type}, Field α → Option Value) (root : Value)
    (result : Except LoadError Value) : Prop :=
  ∃ next, result = .ok next ∧ HasLexer next ∧
    ∀ {α : Type} (field : Field α), next.field? field = (offer field).or (root.field? field)

theorem Takes.bind {first second : ∀ {α : Type}, Field α → Option Value} {root : Value}
    {result : Except LoadError Value} {step : Value → Except LoadError Value}
    (h : Takes first root result) (hstep : ∀ next, HasLexer next → Takes second next (step next)) :
    Takes (fun field => (second field).or (first field)) root (result >>= step) := by
  obtain ⟨next, rfl, hnext, hfields⟩ := h
  obtain ⟨last, hlast, hlexer, hlastFields⟩ := hstep next hnext
  refine ⟨last, hlast, hlexer, fun field => ?_⟩
  rw [hlastFields, hfields, Option.or_assoc]

/-! ### Files -/

theorem Value.lookup_ofTomlEntries (origin : Option String) (name : String)
    (entries : List (String × Toml.Value)) :
    (Value.ofTomlEntries origin entries).lookup name =
      (entries.lookup name).map (Value.ofToml origin) := by
  induction entries with
  | nil => rfl
  | cons p rest ih =>
      obtain ⟨other, value⟩ := p
      rw [ofTomlEntries, List.lookup_cons, List.lookup_cons, ih]
      split <;> rfl

theorem Value.names_ofTomlEntries (origin : Option String)
    (entries : List (String × Toml.Value)) :
    (Value.ofTomlEntries origin entries).map (·.1) = entries.map (·.1) := by
  induction entries with
  | nil => rfl
  | cons p rest ih => rw [ofTomlEntries, List.map_cons, List.map_cons, ih]

theorem Value.entry?_putAll_ofToml {name : String} {entries : List (String × Toml.Value)}
    (hname : lowercase name = name)
    (hlower : ∀ p ∈ entries, lowercase p.1 = name → p.1 = name)
    (hdistinct : (Toml.Value.table entries).Distinct) (origin : Option String)
    {target : Value} {present : Option Value} (hpresent : target.entry? name = present) :
    Value.entry? (target.putAll (ofTomlEntries origin entries)) name =
      ((entries.lookup name).map fun value => (ofToml origin value).mergedInto present).or
        present := by
  have hlower : ∀ other ∈ (ofTomlEntries origin entries).map (·.1),
      lowercase other = name → other = name := by
    rw [names_ofTomlEntries]
    exact List.forall_mem_map.2 hlower
  have hnodup := (Toml.Value.distinct_table_iff.1 hdistinct).1
  rw [← names_ofTomlEntries origin] at hnodup
  rw [entry?_putAll hname hlower hnodup hpresent, lookup_ofTomlEntries, Option.map_map]
  rfl

theorem foldlM_topLevel {entries : List (String × Value)}
    (hnames : ∀ name ∈ entries.map (·.1), Key.IsLowerName name) (root : Value) :
    (entries.foldlM (fun root (name, value) =>
      Loader.setBounded root (Loader.topLevelKey name) value) root) =
        .ok (root.putAll entries) := by
  induction entries generalizing root with
  | nil => rfl
  | cons p rest ih =>
      obtain ⟨hname, hrest⟩ := List.forall_mem_cons.1 hnames
      rw [List.foldlM_cons]
      simp only [hname.topLevelKey_eq]
      exact ih hrest _

theorem Settings.InDocument.putAll {entries : List (String × Toml.Value)} {settings : Settings}
    (h : settings.InDocument entries) (hnames : ∀ p ∈ entries, Key.IsLowerName p.1)
    (hdistinct : (Toml.Value.table entries).Distinct) (origin : Option String) {root : Value}
    (hroot : HasLexer root) :
    HasLexer (root.putAll (Value.ofTomlEntries origin entries)) ∧
      ∀ {α : Type} (field : Field α),
        (root.putAll (Value.ofTomlEntries origin entries)).field? field =
          ((field.setting settings).map fun a => Value.ofToml origin (field.toToml a)).or
            (root.field? field) := by
  obtain ⟨lexer, hlexer, htable⟩ := hroot
  have hentry := Value.entry?_putAll_ofToml lowercase_lexer
    (fun p hp hlower => (hnames p hp).lowercase_eq ▸ hlower) hdistinct origin hlexer
  cases h with
  -- without an entry for the lexer, the lexer stays as it is
  | silent absent =>
      rw [absent] at hentry
      refine ⟨⟨lexer, hentry, htable⟩, fun field => ?_⟩
      rw [Value.field?_eq hentry, Value.field?_eq hlexer]
      cases field <;> rfl
  -- otherwise the table is merged into it, and no name in it stands for a field but that field's
  | @table table _ found others fields =>
      have hmerged : Value.entry? (root.putAll (Value.ofTomlEntries origin entries)) "lexer" =
          some (lexer.putAll (Value.ofTomlEntries origin table)) := by
        rw [hentry, found]
        rfl
      refine ⟨⟨_, hmerged, htable.putAll _⟩, fun field => ?_⟩
      have hlabel : ∀ p ∈ table, lowercase p.1 = field.label → p.1 = field.label := by
        intro p hp hlower
        have hmem : p.1 ∈ Field.labels := Decidable.byContradiction fun hnot =>
          others p hp hnot (hlower ▸ field.label_mem)
        rw [← hlower, Field.lowercase_of_mem hmem]
      have hmem : ("lexer", Toml.Value.table table) ∈ entries := by
        obtain ⟨before, after, heq, -⟩ := List.lookup_eq_some_iff.1 found
        simp [heq]
      have hinner : (Toml.Value.table table).Distinct :=
        (Toml.Value.distinct_table_iff.1 hdistinct).2 _ hmem
      rw [Value.field?_eq hmerged, Value.field?_eq hlexer,
        Value.entry?_putAll_ofToml field.lowercase_label hlabel hinner origin rfl, fields field,
        Option.map_map]
      simp only [Function.comp_def,
        Value.mergedInto_of_not_isTable (Field.not_isTable (field.view?_toToml origin _))]

/-- A well-formed file is read without error, and its fields count. -/
theorem Loader.applyFile_takes {dir : Directory} {layer : FileLayer} {settings : Settings}
    (h : (Layer.file layer).Says dir settings) {root : Value} (hroot : HasLexer root) :
    Takes (fun field => (Layer.file layer).part? dir field) root (applyFile dir root layer) := by
  cases h with
  | @absent path missing =>
      refine ⟨root, ?_, hroot, fun field => ?_⟩
      · simp [applyFile, missing]
      · simp [Layer.part?, missing]
  | @file _ uri text entries _ found parsed names document =>
      obtain ⟨hnext, hfields⟩ := document.putAll names (Toml.distinct_parse? parsed)
        (some uri) hroot
      refine ⟨_, ?_, hnext, fun field => ?_⟩
      · simp only [applyFile, found, parsed]
        refine foldlM_topLevel ?_ root
        rw [Value.names_ofTomlEntries]
        exact List.forall_mem_map.2 names
      · simp only [hfields field, Layer.part?_file found parsed document]

/-! ### Overrides -/

def Field.valueAt {α : Type} (field : Field α) (p : Key × Value) : Option Value :=
  if p.1 = field.key then some p.2 else none

/-- An override of a field changes that field only. -/
theorem Loader.setBounded_takes {α : Type} (field : Field α) {value : Value}
    (hvalue : ¬ value.IsTable) {root : Value} (hroot : HasLexer root) :
    Takes (fun other => other.valueAt (field.key, value)) root
      (setBounded root field.key value) := by
  obtain ⟨lexer, hlexer, htable⟩ := hroot
  refine ⟨setKey field.key value root, rfl, ?_⟩
  have hentry : Value.entry? (setKey field.key value root) "lexer" =
      some (lexer.put field.label value) := by
    refine (Value.entry?_setEntry _ _ _ _).trans ?_
    rw [Field.key, if_pos lowercase_lexer, hlexer]
    rfl
  refine ⟨⟨_, hentry, Value.isTable_put _ _ _⟩, fun other => ?_⟩
  rw [Value.field?_eq hentry, Value.field?_eq hlexer, Value.entry?_put,
    field.lowercase_label, Value.mergedInto_of_not_isTable hvalue]
  by_cases h : field.label = other.label <;> simp [Field.valueAt, Field.key, h]

end RouteHighlight.Config
