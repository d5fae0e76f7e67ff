import RouteHighlight.Proofs.Text.Reader
import RouteHighlight.Toml.Document

/-!
# Names in a document are distinct

A table of a document has no name twice, nor has any table inside it.  The statements of a document
are filled in one by one, and none of them adds a name that is there.
-/

namespace RouteHighlight.Toml

open Text (Reader)
open Text.Reader

/-- The names of a table, and of all tables inside it, are distinct.  What stands in an array does
not matter. -/
inductive Value.Distinct : Value → Prop where
  | table {entries : List (String × Value)} (names : (entries.map (·.1)).Nodup)
      (inner : ∀ p ∈ entries, p.2.Distinct) : Distinct (.table entries)
  | plain {value : Value} (plain : ∀ entries, value ≠ .table entries) : Distinct value

theorem Value.distinct_table_iff {entries : List (String × Value)} :
    (Value.table entries).Distinct ↔
      (entries.map (·.1)).Nodup ∧ ∀ p ∈ entries, p.2.Distinct := by
  constructor
  · rintro (⟨names, inner⟩ | plain)
    · exact ⟨names, inner⟩
    · exact absurd rfl (plain entries)
  · exact fun h => .table h.1 h.2

inductive Entry.Distinct : Entry → Prop where
  | value {value : Value} (distinct : value.Distinct) : Distinct (.value value)
  | table {cause : Cause} {entries : Entries} (names : (entries.map (·.1)).Nodup)
      (inner : ∀ p ∈ entries, p.2.Distinct) : Distinct (.table cause entries)
  | tables {closed : List Entries} {last : Entries} : Distinct (.tables closed last)

structure Entries.Distinct (entries : Entries) : Prop where
  names : (entries.map (·.1)).Nodup
  inner : ∀ p ∈ entries, p.2.Distinct

theorem Entries.distinct_nil : Entries.Distinct [] := ⟨List.nodup_nil, by simp⟩

theorem Entry.distinct_table_iff {cause : Cause} {entries : Entries} :
    (Entry.table cause entries).Distinct ↔ entries.Distinct := by
  constructor
  · rintro (_ | ⟨names, inner⟩)
    exact ⟨names, inner⟩
  · exact fun h => .table h.names h.inner

/-! ## Changing one entry -/

private theorem nodup_append_singleton {names : List String} {name : String} (h : names.Nodup)
    (hnot : name ∉ names) : (names ++ [name]).Nodup := by
  refine List.nodup_append.2 ⟨h, by simp, ?_⟩
  rintro a ha b hb rfl
  rw [List.mem_singleton.1 hb] at ha
  exact hnot ha

variable {name : String} {entries result : Entries} {change : Option Entry → Option Entry}

/-- No name is added but the one that is changed, and that not twice. -/
theorem Entries.names_alter? (h : entries.alter? name change = some result) :
    result.map (·.1) =
      if name ∈ entries.map (·.1) then entries.map (·.1) else entries.map (·.1) ++ [name] := by
  induction entries generalizing result with
  | nil =>
      obtain ⟨entry, -, rfl⟩ := Option.map_eq_some_iff.1 h
      rfl
  | cons p rest ih =>
      obtain ⟨other, entry⟩ := p
      rw [alter?] at h
      split at h
      next heq =>
        obtain ⟨changed, -, rfl⟩ := Option.map_eq_some_iff.1 h
        simp [heq]
      next hne =>
        obtain ⟨tail, htail, rfl⟩ := Option.map_eq_some_iff.1 h
        rw [List.map_cons, ih htail]
        grind

theorem Entries.mem_alter? (h : entries.alter? name change = some result) {p : String × Entry}
    (hmem : p ∈ result) :
    p ∈ entries ∨ ∃ present, (∀ entry ∈ present, (name, entry) ∈ entries) ∧
      change present = some p.2 := by
  induction entries generalizing result with
  | nil =>
      obtain ⟨entry, hchange, rfl⟩ := Option.map_eq_some_iff.1 h
      rw [List.mem_singleton.1 hmem]
      exact .inr ⟨none, by simp, hchange⟩
  | cons q rest ih =>
      obtain ⟨other, entry⟩ := q
      rw [alter?] at h
      split at h
      next heq =>
        obtain ⟨changed, hchange, rfl⟩ := Option.map_eq_some_iff.1 h
        rcases List.mem_cons.1 hmem with rfl | hrest
        · exact .inr ⟨some entry, by simp [heq], hchange⟩
        · exact .inl (List.mem_cons_of_mem _ hrest)
      next hne =>
        obtain ⟨tail, htail, rfl⟩ := Option.map_eq_some_iff.1 h
        rcases List.mem_cons.1 hmem with rfl | hrest
        · exact .inl List.mem_cons_self
        · rcases ih htail hrest with hmem | ⟨present, hpresent, hchange⟩
          · exact .inl (List.mem_cons_of_mem _ hmem)
          · exact .inr ⟨present, fun e he => List.mem_cons_of_mem _ (hpresent e he), hchange⟩

theorem Entries.Distinct.alter? (h : entries.Distinct)
    (hchange : ∀ present entry, (∀ e ∈ present, e.Distinct) → change present = some entry →
      entry.Distinct)
    (hresult : entries.alter? name change = some result) : result.Distinct := by
  constructor
  · rw [names_alter? hresult]
    split
    · exact h.names
    next hnot => exact nodup_append_singleton h.names hnot
  · intro p hp
    rcases mem_alter? hresult hp with hmem | ⟨present, hpresent, heq⟩
    · exact h.inner p hmem
    · exact hchange present p.2 (fun e he => h.inner _ (hpresent e he)) heq

/-! ## Filling tables -/

theorem Entries.Distinct.assign? {value : Value} (hvalue : value.Distinct) {path : List String}
    (h : entries.Distinct) (hresult : entries.assign? name value path = some result) :
    result.Distinct := by
  induction path generalizing entries result with
  | nil =>
      refine h.alter? ?_ hresult
      intro present entry _ heq
      cases present with
      | none => cases heq; exact .value hvalue
      | some e => cases heq
  | cons step path ih =>
      refine h.alter? ?_ hresult
      -- the table at the next step is made, or found with distinct names
      intro present entry hpresent heq
      split at heq
      · obtain ⟨inner, hinner, rfl⟩ := Option.map_eq_some_iff.1 heq
        exact Entry.distinct_table_iff.2 (ih Entries.distinct_nil hinner)
      next found =>
        obtain ⟨inner, hinner, rfl⟩ := Option.map_eq_some_iff.1 heq
        exact Entry.distinct_table_iff.2
          (ih (Entry.distinct_table_iff.1 (hpresent _ rfl)) hinner)
      next found =>
        split at heq
        · cases heq
        · obtain ⟨inner, hinner, rfl⟩ := Option.map_eq_some_iff.1 heq
          exact Entry.distinct_table_iff.2
            (ih (Entry.distinct_table_iff.1 (hpresent _ rfl)) hinner)
      next closed last =>
        split at heq
        · cases heq
        · obtain ⟨inner, -, rfl⟩ := Option.map_eq_some_iff.1 heq
          exact .tables
      · cases heq
      · cases heq

theorem Entries.Distinct.assignAll? {assignments : List Assignment}
    (hvalues : ∀ a ∈ assignments, a.value.Distinct) (h : entries.Distinct)
    (hresult : entries.assignAll? assignments = some result) : result.Distinct := by
  induction assignments generalizing entries with
  | nil => cases hresult; exact h
  | cons a assignments ih =>
      rw [Entries.assignAll?, List.foldlM_cons] at hresult
      obtain ⟨mid, hmid, hresult⟩ := Option.bind_eq_some_iff.1 hresult
      exact ih (fun b hb => hvalues b (List.mem_cons_of_mem _ hb))
        (h.assign? (hvalues a List.mem_cons_self) hmid) hresult

theorem Entries.Distinct.descend? {path : List String} {fill : Entries → Option Entries}
    (hfill : ∀ before after, before.Distinct → fill before = some after → after.Distinct)
    (h : entries.Distinct) (hresult : entries.descend? fill path = some result) :
    result.Distinct := by
  induction path generalizing entries result with
  | nil => exact hfill _ _ h hresult
  | cons step path ih =>
      refine h.alter? ?_ hresult
      intro present entry hpresent heq
      split at heq
      · obtain ⟨inner, hinner, rfl⟩ := Option.map_eq_some_iff.1 heq
        exact Entry.distinct_table_iff.2 (ih Entries.distinct_nil hinner)
      · obtain ⟨inner, hinner, rfl⟩ := Option.map_eq_some_iff.1 heq
        exact Entry.distinct_table_iff.2
          (ih (Entry.distinct_table_iff.1 (hpresent _ rfl)) hinner)
      · obtain ⟨inner, -, rfl⟩ := Option.map_eq_some_iff.1 heq
        exact .tables
      · cases heq

theorem Entries.Distinct.openTable? {fill : Entries → Option Entries}
    (hfill : ∀ before after, before.Distinct → fill before = some after → after.Distinct)
    (h : entries.Distinct) (hresult : entries.openTable? name fill = some result) :
    result.Distinct := by
  -- the table goes behind entries among which its name is not
  have happend {others filled : Entries} (hothers : others.Distinct)
      (hnot : name ∉ others.map (·.1)) (hfilled : filled.Distinct) :
      Entries.Distinct (others ++ [(name, .table .header filled)]) := by
    constructor
    · rw [List.map_append]
      exact nodup_append_singleton hothers.names hnot
    · intro p hp
      rcases List.mem_append.1 hp with hp | hp
      · exact hothers.inner p hp
      · rw [List.mem_singleton.1 hp]
        exact Entry.distinct_table_iff.2 hfilled
  rw [Entries.openTable?] at hresult
  split at hresult
  next hfind =>
    obtain ⟨filled, hfilled, rfl⟩ := Option.map_eq_some_iff.1 hresult
    rw [List.find?_eq_none] at hfind
    refine happend h ?_ (hfill _ _ Entries.distinct_nil hfilled)
    simpa [List.mem_map] using fun entry hmem => hfind (name, entry) hmem
  next found inner hfind =>
    obtain ⟨filled, hfilled, rfl⟩ := Option.map_eq_some_iff.1 hresult
    have hinner := h.inner _ (List.mem_of_find?_eq_some hfind)
    refine happend ⟨?_, fun p hp => h.inner p (List.mem_filter.1 hp).1⟩ (by simp)
      (hfill _ _ (Entry.distinct_table_iff.1 hinner) hfilled)
    exact h.names.sublist (List.filter_sublist.map _)
  · cases hresult

theorem Entries.Distinct.appendTable? {fill : Entries → Option Entries} (h : entries.Distinct)
    (hresult : entries.appendTable? name fill = some result) : result.Distinct := by
  refine h.alter? ?_ hresult
  intro present entry _ heq
  split at heq
  · obtain ⟨inner, -, rfl⟩ := Option.map_eq_some_iff.1 heq
    exact .tables
  · obtain ⟨inner, -, rfl⟩ := Option.map_eq_some_iff.1 heq
    exact .tables
  · cases heq

/-! ## From statements to tables -/

def Statement.Distinct : Statement → Prop
  | .assignment a => a.value.Distinct
  | _ => True

theorem distinct_body {statements : List Statement} (h : ∀ s ∈ statements, s.Distinct) :
    (∀ a ∈ (body statements).1, a.value.Distinct) ∧ ∀ s ∈ (body statements).2, s.Distinct := by
  induction statements with
  | nil => simp [body]
  | cons s rest ih =>
      obtain ⟨hs, hrest⟩ := List.forall_mem_cons.1 h
      cases s with
      | assignment a => exact ⟨List.forall_mem_cons.2 ⟨hs, (ih hrest).1⟩, (ih hrest).2⟩
      | _ => exact ⟨by simp [body], h⟩

theorem Entries.Distinct.fillSections? {statements : List Statement}
    (hstatements : ∀ s ∈ statements, s.Distinct) (h : entries.Distinct)
    (hresult : Toml.fillSections? entries statements = some result) : result.Distinct := by
  fun_induction Toml.fillSections? entries statements with
  | case1 => cases hresult; exact h
  | case2 => cases hresult
  | case3 entries path name rest assignments later hbody ih =>
      obtain ⟨hassigned, hlater⟩ := distinct_body (List.forall_mem_cons.1 hstatements).2
      rw [hbody] at hassigned hlater
      obtain ⟨mid, hmid, hresult⟩ := Option.bind_eq_some_iff.1 hresult
      refine ih mid hlater (h.descend? ?_ hmid) hresult
      intro before after hbefore hopen
      exact hbefore.openTable? (fun _ _ hinner => hinner.assignAll? hassigned) hopen
  | case4 entries path name rest assignments later hbody ih =>
      obtain ⟨-, hlater⟩ := distinct_body (List.forall_mem_cons.1 hstatements).2
      rw [hbody] at hlater
      obtain ⟨mid, hmid, hresult⟩ := Option.bind_eq_some_iff.1 hresult
      refine ih mid hlater (h.descend? ?_ hmid) hresult
      exact fun _ _ hbefore happend => hbefore.appendTable? happend

/-! ## Values -/

theorem Entry.closeAll_eq_map (entries : Entries) :
    Entry.closeAll entries = entries.map fun p => (p.1, p.2.close) := by
  induction entries with
  | nil => rfl
  | cons p rest ih => rw [Entry.closeAll, ih]; rfl

theorem Entry.Distinct.close {entry : Entry} (h : entry.Distinct) : entry.close.Distinct := by
  induction h with
  | value h => exact h
  | table names inner ih =>
      rw [Entry.close, Entry.closeAll_eq_map]
      refine .table ?_ (List.forall_mem_map.2 ih)
      rw [List.map_map]
      exact names
  | tables => exact .plain (by simp [Entry.close])

theorem Entries.Distinct.closeAll (h : entries.Distinct) :
    (Value.table (Entry.closeAll entries)).Distinct :=
  (Entry.distinct_table_iff.2 h : (Entry.table .header entries).Distinct).close

theorem distinct_build? {statements : List Statement} {entries : List (String × Value)}
    (h : ∀ s ∈ statements, s.Distinct) (hbuild : build? statements = some entries) :
    (Value.table entries).Distinct := by
  obtain ⟨hassigned, hsections⟩ := distinct_body h
  obtain ⟨root, hroot, hbuild⟩ := Option.bind_eq_some_iff.1 hbuild
  obtain ⟨filled, hfilled, hbuild⟩ := Option.bind_eq_some_iff.1 hbuild
  cases hbuild
  exact ((Entries.distinct_nil.assignAll? hassigned hroot).fillSections? hsections hfilled).closeAll

theorem Value.of_resolveEntries? {entries resolved : List (String × Value)}
    (h : resolveEntries? entries = some resolved) :
    resolved.map (·.1) = entries.map (·.1) ∧
      ∀ r ∈ resolved, ∃ p ∈ entries, p.2.resolve? = some r.2 := by
  induction entries generalizing resolved with
  | nil => cases h; simp
  | cons p rest ih =>
      rw [resolveEntries?] at h
      obtain ⟨value, hvalue, h⟩ := Option.bind_eq_some_iff.1 h
      obtain ⟨others, hothers, h⟩ := Option.bind_eq_some_iff.1 h
      cases h
      obtain ⟨hnames, hinner⟩ := ih hothers
      refine ⟨by rw [List.map_cons, List.map_cons, hnames], ?_⟩
      refine List.forall_mem_cons.2 ⟨⟨p, List.mem_cons_self, hvalue⟩, fun r hr => ?_⟩
      obtain ⟨q, hq, hresolve⟩ := hinner r hr
      exact ⟨q, List.mem_cons_of_mem _ hq, hresolve⟩

/-- A tagged table becomes a date and time; any other keeps its names. -/
theorem Value.Distinct.resolve? {value resolved : Value} (h : value.Distinct)
    (hresolve : value.resolve? = some resolved) : resolved.Distinct := by
  induction h generalizing resolved with
  | @table entries names inner ih =>
      rw [Value.resolve?] at hresolve
      split at hresolve
      · split at hresolve
        · unfold tagged? at hresolve
          split at hresolve
          · obtain ⟨date, -, rfl⟩ := Option.map_eq_some_iff.1 hresolve
            exact .plain nofun
          · cases hresolve
        · obtain ⟨others, hothers, rfl⟩ := Option.map_eq_some_iff.1 hresolve
          obtain ⟨hnames, hinner⟩ := of_resolveEntries? hothers
          refine .table (hnames ▸ names) fun r hr => ?_
          obtain ⟨p, hp, hr⟩ := hinner r hr
          exact ih p hp hr
      · cases hresolve
        exact .table List.nodup_nil (by simp)
  | @plain value plain =>
      cases value with
      | table entries => exact absurd rfl (plain entries)
      | array items =>
          rw [Value.resolve?] at hresolve
          obtain ⟨others, -, rfl⟩ := Option.map_eq_some_iff.1 hresolve
          exact .plain nofun
      | _ => cases hresolve; exact .plain nofun

/-! ## Readers -/

private theorem yields_plain {α : Type} {reader : Reader α} {make : α → Value}
    (h : ∀ a entries, make a ≠ .table entries) :
    Yields Value.Distinct (reader >>= fun a => pure (make a)) :=
  yields_of_next fun a => yields_pure (.plain (h a))

theorem yields_scalar : Yields Value.Distinct scalar := by
  unfold scalar
  repeat refine yields_orElse (yields_plain nofun) ?_
  exact yields_plain nofun

theorem yields_arrayOf (item : Reader Value) : Yields Value.Distinct (arrayOf item) := by
  unfold arrayOf
  iterate 6 refine yields_of_next fun _ => ?_
  exact yields_pure (.plain nofun)

theorem yields_assignmentOf {value : Reader Value} (h : Yields Value.Distinct value) :
    Yields (fun a => a.value.Distinct) (assignmentOf value) := by
  unfold assignmentOf
  refine yields_of_next fun (path, name) => ?_
  iterate 2 refine yields_of_next fun _ => ?_
  exact yields_bind h fun _ hvalue => yields_pure hvalue

theorem yields_inlineTableOf {value : Reader Value} (h : Yields Value.Distinct value) :
    Yields Value.Distinct (inlineTableOf value) := by
  unfold inlineTableOf
  have hpair : Yields (fun a => a.value.Distinct)
      (do let a ← assignmentOf value; spaces; return a) :=
    yields_bind (yields_assignmentOf h) fun _ ha => yields_of_next fun _ => yields_pure ha
  iterate 2 refine yields_of_next fun _ => ?_
  refine yields_bind (yields_maybe (yields_sepBy1 hpair)) fun pairs hpairs => ?_
  refine yields_of_next fun _ => ?_
  have hassigned : ∀ a ∈ pairs.getD [], a.value.Distinct := by
    cases pairs with
    | none => simp
    | some pairs => exact hpairs pairs rfl
  split
  next entries hentries =>
    exact yields_pure (Entries.distinct_nil.assignAll? hassigned hentries).closeAll
  next => exact yields_failure

theorem yields_value (depth : Nat) : Yields Value.Distinct (value depth) := by
  induction depth with
  | zero => exact yields_scalar
  | succ depth ih =>
      exact yields_orElse yields_scalar (yields_orElse (yields_arrayOf _) (yields_inlineTableOf ih))

theorem yields_header : Yields Statement.Distinct header := by
  unfold header
  refine yields_orElse ?_ ?_ <;>
    exact yields_of_next fun _ => yields_of_next fun _ => yields_of_next fun _ =>
      yields_pure trivial

theorem yields_line : Yields (∀ s ∈ ·, s.Distinct) line := by
  unfold line
  have hassignment : Yields Statement.Distinct
      (do return .assignment (← assignmentOf (value maxDepth))) :=
    yields_bind (yields_assignmentOf (yields_value maxDepth)) fun _ ha => yields_pure ha
  refine yields_of_next fun _ => ?_
  refine yields_bind (yields_maybe (yields_orElse yields_header hassignment)) fun _ hs => ?_
  exact yields_of_next fun _ => yields_pure hs

theorem yields_lines : Yields (∀ s ∈ ·, s.Distinct) lines := by
  unfold lines
  refine yields_bind (yields_many yields_line) fun statements hstatements => ?_
  refine yields_of_next fun _ => yields_pure fun s hs => ?_
  obtain ⟨found, hfound, rfl⟩ := List.mem_filterMap.1 hs
  exact hstatements _ hfound s rfl

/-- The names in the tables of a document are distinct. -/
theorem distinct_parse? {text : String} {entries : List (String × Value)}
    (h : parse? text = some entries) : (Value.table entries).Distinct := by
  obtain ⟨statements, hread, h⟩ := Option.bind_eq_some_iff.1 h
  obtain ⟨built, hbuild, h⟩ := Option.bind_eq_some_iff.1 h
  obtain ⟨resolved, hresolve, h⟩ := Option.bind_eq_some_iff.1 h
  have hstatements := yields_lines.readAll? hread
  have hdistinct := (distinct_build? hstatements hbuild).resolve? hresolve
  split at h
  · cases h
    exact hdistinct
  · cases h

end RouteHighlight.Toml
