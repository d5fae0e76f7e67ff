import RouteHighlight.Proofs.Config.Alike

/-!
# Keys that lie apart

Two keys lie apart if they have some steps in common and then part, to two entries of a table or to
two items of a list.  Values under such keys do not disturb each other: in whatever order they are
set, the configuration shows the same.  A name and an index may part without that, since the one
makes a table where the other makes a list; so may an index from the end, since what is the last
item depends on the list.
-/

namespace RouteHighlight.Config

open Text (lowercase)

/-! ## Ways that part -/

def Step.lower : Step → Step
  | .child name => .child (lowercase name)
  | .index n => .index n

/-- The first two steps in which two ways differ. -/
def parting? : List Step → List Step → Option (Step × Step)
  | s :: ss, t :: ts => if s.lower = t.lower then parting? ss ts else some (s, t)
  | _, _ => none

/-- Both steps are names, or both count the items of a list from its start. -/
def Step.SameKind : Step → Step → Prop
  | .child _, .child _ => True
  | .index i, .index j => 0 ≤ i ∧ 0 ≤ j
  | _, _ => False

inductive Step.Apart : Step → Step → Prop where
  | entries {m n : String} (names : lowercase m ≠ lowercase n) : Apart (.child m) (.child n)
  | items {i j : Nat} (places : i ≠ j) : Apart (.index i) (.index j)

/-- Two ways that have some steps in common and then part. -/
inductive StepsApart : List Step → List Step → Prop where
  | here {s t : Step} {ss ts : List Step} (apart : s.Apart t) : StepsApart (s :: ss) (t :: ts)
  | further {s t : Step} {ss ts : List Step} (same : s.lower = t.lower) (rest : StepsApart ss ts) :
      StepsApart (s :: ss) (t :: ts)

theorem Step.Apart.symm {s t : Step} (h : s.Apart t) : t.Apart s := by
  cases h with
  | entries names => exact .entries names.symm
  | items places => exact .items places.symm

theorem Step.apart_of_sameKind {s t : Step} (hkind : s.SameKind t) (h : s.lower ≠ t.lower) :
    s.Apart t := by
  cases s with
  | child m =>
      cases t with
      | child n => exact .entries fun heq => h (congrArg Step.child heq)
      | index j => exact hkind.elim
  | index i =>
      cases t with
      | child n => exact hkind.elim
      | index j =>
          obtain ⟨hi, hj⟩ := hkind
          obtain ⟨i, rfl⟩ := Int.eq_ofNat_of_zero_le hi
          obtain ⟨j, rfl⟩ := Int.eq_ofNat_of_zero_le hj
          exact .items fun heq => h (heq ▸ rfl)

theorem StepsApart.symm {ss ts : List Step} (h : StepsApart ss ts) : StepsApart ts ss := by
  induction h with
  | here apart => exact .here apart.symm
  | further same _ ih => exact .further same.symm ih

theorem StepsApart.ne_nil {ss ts : List Step} (h : StepsApart ss ts) : ss ≠ [] := by
  cases h <;> exact List.cons_ne_nil _ _

theorem isPrefix_of_parting?_eq_none {ss ts : List Step} (h : parting? ss ts = none) :
    ss.map Step.lower <+: ts.map Step.lower ∨ ts.map Step.lower <+: ss.map Step.lower := by
  induction ss generalizing ts with
  | nil => exact .inl List.nil_prefix
  | cons s ss ih =>
      cases ts with
      | nil => exact .inr List.nil_prefix
      | cons t ts =>
          rw [parting?] at h
          split at h
          next hsame =>
            simp only [List.map_cons, hsame, List.cons_prefix_cons, true_and]
            exact ih h
          next => cases h

theorem stepsApart_of_parting? {ss ts : List Step} {s t : Step}
    (h : parting? ss ts = some (s, t)) (hkind : s.SameKind t) : StepsApart ss ts := by
  induction ss generalizing ts with
  | nil => cases h
  | cons first ss ih =>
      cases ts with
      | nil => cases h
      | cons second ts =>
          rw [parting?] at h
          split at h
          next hsame => exact .further hsame (ih h)
          next hdiffer =>
            cases h
            exact .here (Step.apart_of_sameKind hkind hdiffer)

/-! ## Keys that part -/

namespace Key

def path (key : Key) : List Step := .child key.head :: key.steps

/-- Neither key leads to a place inside that of the other. -/
def Separate (key other : Key) : Prop :=
  ¬ key.path.map Step.lower <+: other.path.map Step.lower ∧
    ¬ other.path.map Step.lower <+: key.path.map Step.lower

/-- Where the keys part, the steps are of one kind. -/
def PartInKind (key other : Key) : Prop :=
  ∀ s t, parting? key.path other.path = some (s, t) → s.SameKind t

def Apart (key other : Key) : Prop := StepsApart key.path other.path

theorem Apart.symm {key other : Key} (h : key.Apart other) : other.Apart key := StepsApart.symm h

theorem Separate.apart {key other : Key} (h : key.Separate other) (hkind : key.PartInKind other) :
    key.Apart other := by
  cases hparting : parting? key.path other.path with
  | none =>
      rcases isPrefix_of_parting?_eq_none hparting with hprefix | hprefix
      · exact absurd hprefix h.1
      · exact absurd hprefix h.2
  | some steps => exact stepsApart_of_parting? hparting (hkind _ _ hparting)

end Key

/-! ## Setting two values -/

namespace Value

variable {ss ts : List Step}

theorem setSteps_child (value : Value) (name : String) (steps : List Step) :
    ∃ change, ∀ target, value.setSteps (.child name :: steps) target =
      target.setEntry name change := by
  cases steps with
  | nil => exact ⟨value.mergedInto, fun target => put_eq target value name⟩
  | cons step steps => exact ⟨_, fun target => rfl⟩

theorem setSteps_child_of_ne_nil {steps : List Step} (h : steps ≠ []) (value target : Value)
    (name : String) :
    value.setSteps (.child name :: steps) target =
      target.setEntry name fun present => value.setSteps steps (present.getD .nil) := by
  cases steps with
  | nil => exact absurd rfl h
  | cons step steps => rfl

/-- Values that are set apart from each other may be set in either order. -/
theorem setSteps_comm (h : StepsApart ss ts) (v w target : Value) :
    (w.setSteps ts (v.setSteps ss target)).Alike (v.setSteps ss (w.setSteps ts target)) := by
  induction h generalizing target with
  | @here s t ss ts apart =>
      cases apart with
      | @entries m n names =>
          obtain ⟨f, hf⟩ := setSteps_child v m ss
          obtain ⟨g, hg⟩ := setSteps_child w n ts
          rw [hf, hg, hg, hf]
          exact setEntry_comm target names f g
      | items places => exact .of_eq (setItem_comm target places _ _)
  | @further s t ss ts same rest ih =>
      cases s with
      | index i =>
          cases t with
          | child n => cases same
          | index j =>
              cases same
              show ((target.setItem i (v.setSteps ss)).setItem i (w.setSteps ts)).Alike
                ((target.setItem i (w.setSteps ts)).setItem i (v.setSteps ss))
              rw [setItem_setItem, setItem_setItem]
              exact (Alike.refl target).setItem i fun x y hxy =>
                (ih x).trans ((hxy.setSteps w ts).setSteps v ss)
      | child m =>
          cases t with
          | index j => cases same
          | child n =>
              have hname : lowercase m = lowercase n := Step.child.inj same
              rw [setSteps_child_of_ne_nil rest.ne_nil, setSteps_child_of_ne_nil rest.symm.ne_nil,
                setSteps_child_of_ne_nil rest.symm.ne_nil, setSteps_child_of_ne_nil rest.ne_nil]
              refine (setEntry_setEntry target hname _ _).trans ?_
              refine .trans ?_ (setEntry_setEntry target hname.symm _ _).symm
              exact (Alike.refl target).setEntry hname.symm fun x y hxy =>
                (ih _).trans (((hxy.getD .nil).setSteps w ts).setSteps v ss)

end Value

/-! ## Setting many values -/

namespace Loader

def setAll (root : Value) (overrides : List (Key × Value)) : Value :=
  overrides.foldl (fun root (key, value) => setKey key value root) root

theorem alike_setAll {root other : Value} (h : root.Alike other) (overrides : List (Key × Value)) :
    (setAll root overrides).Alike (setAll other overrides) := by
  induction overrides generalizing root other with
  | nil => exact h
  | cons p rest ih => exact ih (h.setSteps p.2 p.1.path)

/-- Values under keys apart from each other may be set in any order. -/
theorem alike_setAll_of_perm {overrides others : List (Key × Value)}
    (hperm : overrides.Perm others) (h : overrides.Pairwise fun p q => p.1.Apart q.1)
    (root : Value) : (setAll root overrides).Alike (setAll root others) := by
  induction hperm generalizing root with
  | nil => exact .refl root
  | cons p _ ih => exact ih (List.pairwise_cons.1 h).2 _
  | swap p q rest =>
      have happart : q.1.Apart p.1 := List.rel_of_pairwise_cons h List.mem_cons_self
      exact alike_setAll (Value.setSteps_comm happart q.2 p.2 root) rest
  | trans hfirst _ ihfirst ihsecond =>
      have hmiddle := (hfirst.pairwise_iff fun hpq => Key.Apart.symm hpq).1 h
      exact (ihfirst h root).trans (ihsecond hmiddle root)

end Loader

end RouteHighlight.Config
