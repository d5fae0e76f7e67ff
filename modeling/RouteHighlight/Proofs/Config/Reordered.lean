import RouteHighlight.Proofs.Config.Apart

/-!
# Entries in any order

A table does not keep its entries in the order in which they were written.  Values whose tables
differ in that order only are the same to whoever reads them, and leave the same where they are
set, unless two names of one table are the same in lower case.
-/

namespace RouteHighlight.Config

open Text (lowercase)

namespace Value

/-! ## Reordered values -/

mutual

/-- One value is the other with the entries of its tables, at any depth, in some other order. -/
inductive Reordered : Value → Value → Prop where
  | scalar (origin : Option String) (x : Scalar) : Reordered (.scalar origin x) (.scalar origin x)
  | list (origin : Option String) {items others : List Value} (h : ItemsReordered items others) :
      Reordered (.list origin items) (.list origin others)
  | table (origin : Option String) {entries others : List (String × Value)}
      (h : EntriesReordered entries others) :
      Reordered (.table origin entries) (.table origin others)

inductive ItemsReordered : List Value → List Value → Prop where
  | nil : ItemsReordered [] []
  | cons {item other : Value} {items others : List Value} (head : Reordered item other)
      (tail : ItemsReordered items others) : ItemsReordered (item :: items) (other :: others)

inductive EntriesReordered : List (String × Value) → List (String × Value) → Prop where
  | nil : EntriesReordered [] []
  | cons (name : String) {value other : Value} {entries others : List (String × Value)}
      (head : Reordered value other) (tail : EntriesReordered entries others) :
      EntriesReordered ((name, value) :: entries) ((name, other) :: others)
  | swap (p q : String × Value) (entries : List (String × Value)) :
      EntriesReordered (p :: q :: entries) (q :: p :: entries)
  | trans {entries middle others : List (String × Value)}
      (first : EntriesReordered entries middle) (second : EntriesReordered middle others) :
      EntriesReordered entries others

end

/-- No table, at any depth, has two names that are the same in lower case. -/
inductive Clashless : Value → Prop where
  | scalar (origin : Option String) (x : Scalar) : Clashless (.scalar origin x)
  | list (origin : Option String) {items : List Value} (values : ∀ item ∈ items, Clashless item) :
      Clashless (.list origin items)
  | table (origin : Option String) {entries : List (String × Value)}
      (names : (entries.map (lowercase ·.1)).Nodup)
      (values : ∀ p ∈ entries, Clashless p.2) : Clashless (.table origin entries)

mutual

theorem Reordered.refl (value : Value) : Reordered value value := by
  cases value with
  | scalar origin x => exact .scalar origin x
  | list origin items => exact .list origin (ItemsReordered.refl items)
  | table origin entries => exact .table origin (EntriesReordered.refl entries)

theorem ItemsReordered.refl (items : List Value) : ItemsReordered items items := by
  cases items with
  | nil => exact .nil
  | cons item items => exact .cons (Reordered.refl item) (ItemsReordered.refl items)

theorem EntriesReordered.refl (entries : List (String × Value)) :
    EntriesReordered entries entries := by
  cases entries with
  | nil => exact .nil
  | cons p entries => exact .cons p.1 (Reordered.refl p.2) (EntriesReordered.refl entries)

end

theorem EntriesReordered.names_perm {entries others : List (String × Value)}
    (h : EntriesReordered entries others) :
    (entries.map (lowercase ·.1)).Perm (others.map (lowercase ·.1)) := by
  match h with
  | .nil => exact .nil
  | .cons name _ tail => exact tail.names_perm.cons (lowercase name)
  | .swap p q entries => exact .swap _ _ _
  | .trans first second => exact first.names_perm.trans second.names_perm

mutual

theorem Reordered.clashless {value other : Value} (h : Reordered value other)
    (hvalue : value.Clashless) : other.Clashless := by
  match h with
  | .scalar _ _ => exact hvalue
  | .list origin hitems =>
      cases hvalue with
      | list _ items => exact .list origin (hitems.clashless items)
  | .table origin hentries =>
      cases hvalue with
      | table _ names values =>
          exact .table origin (hentries.names_perm.nodup_iff.1 names) (hentries.clashless values)

theorem ItemsReordered.clashless {items others : List Value} (h : ItemsReordered items others)
    (hitems : ∀ item ∈ items, item.Clashless) : ∀ item ∈ others, item.Clashless := by
  match h with
  | .nil => exact hitems
  | .cons head tail =>
      obtain ⟨hhead, htail⟩ := List.forall_mem_cons.1 hitems
      exact List.forall_mem_cons.2 ⟨head.clashless hhead, tail.clashless htail⟩

theorem EntriesReordered.clashless {entries others : List (String × Value)}
    (h : EntriesReordered entries others) (hentries : ∀ p ∈ entries, p.2.Clashless) :
    ∀ p ∈ others, p.2.Clashless := by
  match h with
  | .nil => exact hentries
  | .cons _ head tail =>
      obtain ⟨hhead, htail⟩ := List.forall_mem_cons.1 hentries
      exact List.forall_mem_cons.2 ⟨head.clashless hhead, tail.clashless htail⟩
  | .swap p q entries =>
      obtain ⟨hp, hrest⟩ := List.forall_mem_cons.1 hentries
      obtain ⟨hq, hrest⟩ := List.forall_mem_cons.1 hrest
      exact List.forall_mem_cons.2 ⟨hq, List.forall_mem_cons.2 ⟨hp, hrest⟩⟩
  | .trans first second => exact second.clashless (first.clashless hentries)

end

theorem lowercase_ne_of_nodup {p q : String × Value} {entries : List (String × Value)}
    (h : ((p :: q :: entries).map (lowercase ·.1)).Nodup) : lowercase p.1 ≠ lowercase q.1 := by
  have hnot := (List.nodup_cons.1 h).1
  rw [List.map_cons, List.mem_cons, not_or] at hnot
  exact hnot.1

/-! ## What is read of them -/

theorem entry?_cons (origin : Option String) (p : String × Value) (entries : List (String × Value))
    (name : String) :
    Value.entry? (table origin (p :: entries)) name =
      if p.1 = name then some p.2 else Value.entry? (table origin entries) name := by
  by_cases h : p.1 = name <;> simp [Value.entries, h, entry?]

theorem alike_of_items (origin : Option String) {items others : List Value}
    (h : List.Forall₂ Alike items others) : (list origin items).Alike (list origin others) := by
  refine alike_iff.2 ⟨congrArg (Node.list origin) h.length_eq, fun part => ?_⟩
  cases part with
  | entry name => exact .of_eq rfl
  | item i =>
      show AlikeParts items[i]? others[i]?
      induction h generalizing i with
      | nil => exact .of_eq rfl
      | cons head tail ih =>
          cases i with
          | zero => exact head
          | succ i => exact ih i

mutual

theorem Reordered.alike {value other : Value} (h : Reordered value other)
    (hvalue : value.Clashless) : value.Alike other := by
  match h with
  | .scalar _ _ => exact .refl _
  | .list origin hitems =>
      cases hvalue with
      | list _ items => exact alike_of_items origin (hitems.alike items)
  | .table origin hentries =>
      cases hvalue with
      | table _ names values =>
          exact alike_of_tables rfl rfl fun name => hentries.alike origin names values name

theorem ItemsReordered.alike {items others : List Value} (h : ItemsReordered items others)
    (hitems : ∀ item ∈ items, item.Clashless) : List.Forall₂ Alike items others := by
  match h with
  | .nil => exact .nil
  | .cons head tail =>
      obtain ⟨hhead, htail⟩ := List.forall_mem_cons.1 hitems
      exact .cons (head.alike hhead) (tail.alike htail)

theorem EntriesReordered.alike {entries others : List (String × Value)}
    (h : EntriesReordered entries others) (origin : Option String)
    (names : (entries.map (lowercase ·.1)).Nodup) (values : ∀ p ∈ entries, p.2.Clashless)
    (name : String) :
    AlikeParts (Value.entry? (table origin entries) name)
      (Value.entry? (table origin others) name) := by
  match h with
  | .nil => exact .of_eq rfl
  | .cons present head tail =>
      obtain ⟨hhead, htail⟩ := List.forall_mem_cons.1 values
      rw [entry?_cons, entry?_cons]
      split
      · exact head.alike hhead
      · exact tail.alike origin (List.nodup_cons.1 names).2 htail name
  | .swap p q entries =>
      have hne : p.1 ≠ q.1 := fun heq => lowercase_ne_of_nodup names (congrArg lowercase heq)
      apply AlikeParts.of_eq
      rw [entry?_cons, entry?_cons, entry?_cons, entry?_cons]
      by_cases hp : p.1 = name
      · have hq : q.1 ≠ name := fun hq => hne (hp.trans hq.symm)
        rw [if_pos hp, if_neg hq, if_pos hp]
      · rw [if_neg hp, if_neg hp]
  | .trans first second =>
      have hmiddle := first.names_perm.nodup_iff.1 names
      exact (first.alike origin names values name).trans
        (second.alike origin hmiddle (first.clashless values) name)

end

/-! ## What is left where they are set -/

mutual

theorem Reordered.mergedInto {value other : Value} (h : Reordered value other)
    (hvalue : value.Clashless) {x y : Option Value} (hxy : AlikeParts x y) :
    (value.mergedInto x).Alike (other.mergedInto y) := by
  match h with
  | .scalar _ _ => exact .refl _
  | .list origin hitems => exact (Reordered.list origin hitems).alike hvalue
  | .table _ hentries =>
      cases hvalue with
      | table _ names values => exact hentries.putAll names values (hxy.getD .emptyTable)

theorem EntriesReordered.putAll {entries others : List (String × Value)}
    (h : EntriesReordered entries others) (names : (entries.map (lowercase ·.1)).Nodup)
    (values : ∀ p ∈ entries, p.2.Clashless) {target copy : Value} (htarget : target.Alike copy) :
    (target.putAll entries).Alike (copy.putAll others) := by
  match h with
  | .nil => exact htarget
  | .cons name head tail =>
      obtain ⟨hhead, htail⟩ := List.forall_mem_cons.1 values
      refine tail.putAll (List.nodup_cons.1 names).2 htail ?_
      rw [put_eq, put_eq]
      exact htarget.setEntry rfl fun x y hxy => head.mergedInto hhead hxy
  | .swap p q entries =>
      have hswap : ((target.put p.1 p.2).put q.1 q.2).Alike ((copy.put q.1 q.2).put p.1 p.2) := by
        refine ((htarget.put p.2 p.1).put q.2 q.1).trans ?_
        simp only [put_eq]
        exact setEntry_comm copy (lowercase_ne_of_nodup names) _ _
      exact hswap.putAll entries
  | .trans first second =>
      have hmiddle := first.names_perm.nodup_iff.1 names
      exact (first.putAll names values htarget).trans
        (second.putAll hmiddle (first.clashless values) (.refl copy))

end

theorem Reordered.setSteps {value other : Value} (h : Reordered value other)
    (hvalue : value.Clashless) (steps : List Step) {target copy : Value}
    (htarget : target.Alike copy) :
    (value.setSteps steps target).Alike (other.setSteps steps copy) := by
  induction steps generalizing target copy with
  | nil => exact h.alike hvalue
  | cons step steps ih =>
      cases step with
      | index n => exact htarget.setItem n fun x y hxy => ih hxy
      | child name =>
          cases steps with
          | nil =>
              show (target.put name value).Alike (copy.put name other)
              rw [put_eq, put_eq]
              exact htarget.setEntry rfl fun x y hxy => h.mergedInto hvalue hxy
          | cons next steps => exact htarget.setEntry rfl fun x y hxy => ih (hxy.getD .nil)

end Value

/-! ## Values under keys -/

namespace Loader

/-- The same values under the same keys, in any order and with the entries of tables in any
order. -/
def Shuffled (sets others : List (Key × Value)) : Prop :=
  ∃ middle, List.Forall₂ (fun p q => p.1 = q.1 ∧ p.2.Reordered q.2) sets middle ∧
    middle.Perm others

/-- Values whose order does not count: under keys apart from each other, and without clashes. -/
structure Orderless (sets : List (Key × Value)) : Prop where
  apart : sets.Pairwise fun p q => p.1.Apart q.1
  values : ∀ p ∈ sets, p.2.Clashless

theorem Shuffled.refl (sets : List (Key × Value)) : Shuffled sets sets := by
  refine ⟨sets, ?_, .refl sets⟩
  exact List.forall₂_same.2 fun p _ => ⟨rfl, .refl p.2⟩

theorem alike_setAll_of_reordered {sets others : List (Key × Value)}
    (h : List.Forall₂ (fun p q => p.1 = q.1 ∧ p.2.Reordered q.2) sets others)
    (hsets : ∀ p ∈ sets, p.2.Clashless) {root copy : Value} (hroot : root.Alike copy) :
    (setAll root sets).Alike (setAll copy others) := by
  induction h generalizing root copy with
  | nil => exact hroot
  | @cons p q _ _ head tail ih =>
      obtain ⟨hp, hrest⟩ := List.forall_mem_cons.1 hsets
      obtain ⟨hkey, hvalue⟩ := head
      refine ih hrest ?_
      show (p.2.setSteps p.1.path root).Alike (q.2.setSteps q.1.path copy)
      rw [← hkey]
      exact hvalue.setSteps hp p.1.path hroot

theorem keys_eq_of_reordered {sets others : List (Key × Value)}
    (h : List.Forall₂ (fun p q => p.1 = q.1 ∧ p.2.Reordered q.2) sets others) :
    sets.map (·.1) = others.map (·.1) := by
  induction h with
  | nil => rfl
  | cons head _ ih => rw [List.map_cons, List.map_cons, head.1, ih]

/-- However values without order are taken, they leave the same. -/
theorem Shuffled.alike {sets others : List (Key × Value)} (h : Shuffled sets others)
    (hsets : Orderless sets) {root copy : Value} (hroot : root.Alike copy) :
    (setAll root sets).Alike (setAll copy others) := by
  obtain ⟨middle, hvalues, hperm⟩ := h
  have hapart : (middle.map (·.1)).Pairwise Key.Apart := by
    rw [← keys_eq_of_reordered hvalues]
    exact List.pairwise_map.2 hsets.apart
  exact (alike_setAll_of_reordered hvalues hsets.values hroot).trans
    (alike_setAll_of_perm hperm (List.pairwise_map.1 hapart) copy)

end Loader

end RouteHighlight.Config
