import RouteHighlight.Config.Loader

/-!
# Merging into a table

What an entry is after a value or a table was put into a configuration.  Setting one name leaves
the entries of all others as they are, so that the merge of a table can be followed name by name.
-/

namespace RouteHighlight.Config

open Text (lowercase)

/-! ## One entry -/

theorem find?_alterEntry (name other : String) (change : Option Value → Value)
    (entries : List (String × Value)) :
    ((alterEntry name change entries).find? (·.1 == other)).map (·.2) =
      if name = other then some (change ((entries.find? (·.1 == name)).map (·.2)))
      else (entries.find? (·.1 == other)).map (·.2) := by
  induction entries with
  | nil => by_cases h : name = other <;> simp [alterEntry, h]
  | cons p rest ih =>
      obtain ⟨present, value⟩ := p
      rw [alterEntry]
      by_cases hpresent : present = name
      · subst hpresent
        by_cases h : present = other <;> simp [h]
      · rw [if_neg hpresent]
        by_cases h : present = other
        · subst h
          simp [Ne.symm hpresent]
        · simpa [h, hpresent] using ih

namespace Value

theorem entry?_setEntry (target : Value) (name other : String) (change : Option Value → Value) :
    Value.entry? (target.setEntry name change) other =
      if lowercase name = other then some (change <| target.entry? other)
      else target.entry? other := by
  cases target with
  | table origin entries =>
      refine (find?_alterEntry _ other change entries).trans ?_
      by_cases h : lowercase name = other
      · rw [if_pos h, if_pos h, h]
        rfl
      · rw [if_neg h, if_neg h]
        rfl
  | _ =>
      by_cases h : lowercase name = other <;> simp [setEntry, entry?, entries, h]

def IsTable (value : Value) : Prop := ∃ origin entries, value = .table origin entries

/-- What becomes of an entry when a value is put there: a table is merged into it, any other value
takes its place. -/
def mergedInto (present : Option Value) : Value → Value
  | .table _ entries => putAll (present.getD .emptyTable) entries
  | value => value

theorem mergedInto_of_not_isTable {value : Value} (h : ¬ value.IsTable) (present : Option Value) :
    value.mergedInto present = value := by
  cases value with
  | table origin entries => exact absurd ⟨_, _, rfl⟩ h
  | _ => rfl

theorem put_eq (target value : Value) (name : String) :
    target.put name value = target.setEntry name fun present => value.mergedInto present := by
  cases value <;> simp [put, mergedInto]

theorem entry?_put (target value : Value) (name other : String) :
    Value.entry? (target.put name value) other =
      if lowercase name = other then some (value.mergedInto <| target.entry? other)
      else target.entry? other := by
  rw [put_eq, entry?_setEntry]

/-! ## A whole table -/

theorem entry?_putAll {name : String} {entries : List (String × Value)}
    (hname : lowercase name = name)
    (hlower : ∀ other ∈ entries.map (·.1), lowercase other = name → other = name)
    (hnodup : (entries.map (·.1)).Nodup) {target : Value} {present : Option Value}
    (hpresent : target.entry? name = present) :
    Value.entry? (target.putAll entries) name =
      ((entries.lookup name).map (·.mergedInto present)).or present := by
  induction entries generalizing target present with
  | nil => exact hpresent
  | cons p rest ih =>
      obtain ⟨other, value⟩ := p
      obtain ⟨hother, hrest⟩ := List.forall_mem_cons.1 hlower
      obtain ⟨hnot, hnodup⟩ := List.nodup_cons.1 hnodup
      rw [putAll, ih hrest hnodup rfl, entry?_put, hpresent, List.lookup_cons]
      by_cases h : other = name
      · subst h
        have hlookup : rest.lookup other = none := by
          rw [List.lookup_eq_none_iff]
          intro q hq
          have hmem : q.1 ∈ rest.map (·.1) := List.mem_map_of_mem hq
          have hne : other ≠ q.1 := fun heq => hnot (heq ▸ hmem)
          simpa using hne
        simp [hlookup, hname]
      · have hne : lowercase other ≠ name := fun heq => h (hother heq)
        have hbeq : (name == other) = false := by simpa using Ne.symm h
        simp [hne, hbeq]

/-! ## Tables stay tables -/

theorem isTable_setEntry (target : Value) (name : String) (change : Option Value → Value) :
    (target.setEntry name change).IsTable := by
  cases target <;> exact ⟨_, _, rfl⟩

theorem isTable_put (target value : Value) (name : String) : (target.put name value).IsTable := by
  rw [put_eq]
  exact isTable_setEntry _ _ _

theorem IsTable.putAll {target : Value} (h : target.IsTable) (entries : List (String × Value)) :
    (target.putAll entries).IsTable := by
  induction entries generalizing target with
  | nil => exact h
  | cons p rest ih => exact ih (isTable_put _ _ _)

end Value

end RouteHighlight.Config
