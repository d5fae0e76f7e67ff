import Mathlib.Data.List.Forall2
import RouteHighlight.Proofs.Config.Merge

/-!
# Configurations that show the same

A configuration is read by going down into it, by the names of tables and the places of lists.  Two
values are alike if the same is seen wherever one goes; the entries of alike tables may stand in
different orders.  Whatever is set, alike values stay alike, and so they describe the same lexer.
-/

namespace RouteHighlight.Config

open Text (lowercase)

/-- What is seen of a value without going down into it. -/
inductive Node where
  | scalar (origin : Option String) (x : Scalar)
  | list (origin : Option String) (length : Nat)
  | table (origin : Option String)

inductive Part where
  | entry (name : String)
  | item (position : Nat)

namespace Node

def tableOrigin : Node → Option String
  | .table origin => origin
  | _ => none

def listOrigin : Node → Option String
  | .list origin _ => origin
  | _ => none

def length : Node → Nat
  | .list _ length => length
  | _ => 0

end Node

namespace Value

def node : Value → Node
  | .scalar origin x => .scalar origin x
  | .list origin items => .list origin items.length
  | .table origin _ => .table origin

def part? (value : Value) : Part → Option Value
  | .entry name => value.entry? name
  | .item position => value.items[position]?

def seen : List Part → Value → Option Node
  | [], value => some value.node
  | part :: way, value => (value.part? part).bind (seen way)

/-- The same is seen of both values, wherever one goes. -/
def Alike (first second : Value) : Prop := ∀ way, first.seen way = second.seen way

def AlikeParts (first second : Option Value) : Prop :=
  ∀ way, first.bind (seen way) = second.bind (seen way)

variable {first second third : Value} {x y : Option Value} {m n : String}

theorem Alike.refl (value : Value) : value.Alike value := fun _ => rfl

theorem Alike.of_eq (h : first = second) : first.Alike second := fun _ => h ▸ rfl

theorem Alike.symm (h : first.Alike second) : second.Alike first := fun way => (h way).symm

theorem Alike.trans (h : first.Alike second) (h' : second.Alike third) : first.Alike third :=
  fun way => (h way).trans (h' way)

theorem alike_iff :
    first.Alike second ↔
      first.node = second.node ∧ ∀ part, AlikeParts (first.part? part) (second.part? part) := by
  constructor
  · intro h
    exact ⟨Option.some.inj (h []), fun part way => h (part :: way)⟩
  · rintro ⟨hnode, hparts⟩ way
    cases way with
    | nil => exact congrArg some hnode
    | cons part way => exact hparts part way

theorem Alike.node_eq (h : first.Alike second) : first.node = second.node := (alike_iff.1 h).1

theorem Alike.entry? (h : first.Alike second) (name : String) :
    AlikeParts (first.entry? name) (second.entry? name) :=
  (alike_iff.1 h).2 (.entry name)

theorem Alike.item (h : first.Alike second) (position : Nat) :
    AlikeParts first.items[position]? second.items[position]? :=
  (alike_iff.1 h).2 (.item position)

theorem AlikeParts.of_eq (h : x = y) : AlikeParts x y := fun _ => h ▸ rfl

theorem AlikeParts.trans {z : Option Value} (h : AlikeParts x y) (h' : AlikeParts y z) :
    AlikeParts x z := fun way => (h way).trans (h' way)

theorem AlikeParts.cases (h : AlikeParts x y) :
    x = none ∧ y = none ∨ ∃ a b, x = some a ∧ y = some b ∧ a.Alike b := by
  cases x with
  | none =>
      cases y with
      | none => exact .inl ⟨rfl, rfl⟩
      | some b => cases h []
  | some a =>
      cases y with
      | none => cases h []
      | some b => exact .inr ⟨a, b, rfl, rfl, h⟩

theorem AlikeParts.getD (h : AlikeParts x y) (default : Value) :
    (x.getD default).Alike (y.getD default) := by
  rcases h.cases with ⟨rfl, rfl⟩ | ⟨a, b, rfl, rfl, hab⟩
  · exact .refl default
  · exact hab

/-! ## Tables -/

theorem setEntry_eq (value : Value) (name : String) (change : Option Value → Value) :
    value.setEntry name change =
      .table value.node.tableOrigin (alterEntry (lowercase name) change value.entries) := by
  cases value <;> rfl

theorem node_setEntry (value : Value) (name : String) (change : Option Value → Value) :
    (value.setEntry name change).node = .table value.node.tableOrigin := by
  rw [setEntry_eq]
  rfl

theorem alike_of_tables {origin : Option String} (hfirst : first.node = .table origin)
    (hsecond : second.node = .table origin)
    (h : ∀ name, AlikeParts (first.entry? name) (second.entry? name)) : first.Alike second := by
  refine alike_iff.2 ⟨hfirst.trans hsecond.symm, fun part => ?_⟩
  cases part with
  | entry name => exact h name
  | item position =>
      -- a table has no items
      cases first <;> cases hfirst
      cases second <;> cases hsecond
      exact .of_eq rfl

theorem Alike.setEntry (h : first.Alike second) (hname : lowercase m = lowercase n)
    {f g : Option Value → Value} (hchange : ∀ x y, AlikeParts x y → (f x).Alike (g y)) :
    (first.setEntry m f).Alike (second.setEntry n g) := by
  have hnode := node_setEntry second n g
  rw [← h.node_eq] at hnode
  refine alike_of_tables (node_setEntry first m f) hnode fun name => ?_
  rw [entry?_setEntry, entry?_setEntry, hname]
  split
  · exact hchange _ _ (h.entry? name)
  · exact h.entry? name

theorem setEntry_setEntry (value : Value) (hname : lowercase m = lowercase n)
    (f g : Option Value → Value) :
    ((value.setEntry m f).setEntry n g).Alike (value.setEntry n fun x => g (some (f x))) := by
  have hnode : ((value.setEntry m f).setEntry n g).node = .table value.node.tableOrigin := by
    rw [node_setEntry, node_setEntry]
    rfl
  refine alike_of_tables hnode (node_setEntry value n _) fun name => .of_eq ?_
  rw [entry?_setEntry, entry?_setEntry, entry?_setEntry, hname]
  split <;> rfl

theorem setEntry_comm (value : Value) (hname : lowercase m ≠ lowercase n)
    (f g : Option Value → Value) :
    ((value.setEntry m f).setEntry n g).Alike ((value.setEntry n g).setEntry m f) := by
  have hnode (m n : String) (f g : Option Value → Value) :
      ((value.setEntry m f).setEntry n g).node = .table value.node.tableOrigin := by
    rw [node_setEntry, node_setEntry]
    rfl
  refine alike_of_tables (hnode m n f g) (hnode n m g f) fun name => .of_eq ?_
  rw [entry?_setEntry, entry?_setEntry, entry?_setEntry, entry?_setEntry]
  by_cases hm : lowercase m = name
  · have hn : lowercase n ≠ name := fun hn => hname (hm.trans hn.symm)
    rw [if_neg hn, if_pos hm, if_pos hm, if_neg hn]
  · rw [if_neg hm, if_neg hm]

mutual

theorem Alike.put (value : Value) (name : String) {first second : Value}
    (h : first.Alike second) : (first.put name value).Alike (second.put name value) := by
  cases value with
  | table origin entries =>
      rw [Value.put, Value.put]
      exact h.setEntry rfl fun x y hxy => Alike.putAll entries (hxy.getD .emptyTable)
  | scalar origin x => exact h.setEntry rfl fun _ _ _ => .refl _
  | list origin items => exact h.setEntry rfl fun _ _ _ => .refl _

theorem Alike.putAll (entries : List (String × Value)) {first second : Value}
    (h : first.Alike second) : (first.putAll entries).Alike (second.putAll entries) := by
  cases entries with
  | nil => exact h
  | cons p rest =>
      obtain ⟨name, value⟩ := p
      exact Alike.putAll rest (Alike.put value name h)

end

/-! ## Lists -/

theorem setItem_eq (value : Value) (n : Int) (change : Value → Value) :
    value.setItem n change =
      .list value.node.listOrigin (alterItem (place n value.items.length) change value.items) := by
  cases value <;> rfl

theorem length_alterItem (position : Nat) (change : Value → Value) (items : List Value) :
    (alterItem position change items).length = max items.length (position + 1) := by
  simp [alterItem]
  omega

theorem getElem?_alterItem (position i : Nat) (change : Value → Value) (items : List Value) :
    (alterItem position change items)[i]? =
      if position = i then some (change (items[i]?.getD .nil))
      else if i < position then some (items[i]?.getD .nil)
      else items[i]? := by
  have hgrown : (items ++ List.replicate (position + 1 - items.length) Value.nil)[i]? =
      if i ≤ position then some (items[i]?.getD .nil) else items[i]? := by
    rw [List.getElem?_append, List.getElem?_replicate]
    split
    next hi => split <;> simp [hi]
    next hi =>
      rw [List.getElem?_eq_none (Nat.le_of_not_lt hi)]
      split <;> split <;> first | rfl | omega
  rw [alterItem, List.getElem?_modify, hgrown]
  by_cases hi : position = i
  · subst hi
    simp
  · by_cases hlt : i < position
    · simp [hi, hlt, Nat.le_of_lt hlt]
    · have hle : ¬ i ≤ position := by omega
      simp [hi, hlt, hle]

theorem alterItem_alterItem (position : Nat) (f g : Value → Value) (items : List Value) :
    alterItem position g (alterItem position f items) =
      alterItem position (fun item => g (f item)) items := by
  apply List.ext_getElem?
  intro i
  rw [getElem?_alterItem, getElem?_alterItem, getElem?_alterItem]
  by_cases hi : position = i
  · simp [hi]
  · by_cases hlt : i < position <;> simp [hi, hlt]

theorem alterItem_comm {p q : Nat} (h : p ≠ q) (f g : Value → Value) (items : List Value) :
    alterItem q g (alterItem p f items) = alterItem p f (alterItem q g items) := by
  apply List.ext_getElem?
  intro i
  simp only [getElem?_alterItem]
  by_cases hp : p = i
  · have hq : q ≠ i := fun hq => h (hp.trans hq.symm)
    by_cases hlt : i < q <;> simp [hp, hq, hlt]
  · by_cases hq : q = i
    · by_cases hlt : i < p <;> simp [hp, hq, hlt]
    · by_cases hltp : i < p <;> by_cases hltq : i < q <;> simp [hp, hq, hltp, hltq]

/-- A place once made is found again, also from the end. -/
theorem place_grown (n : Int) (length : Nat) :
    place n (max length (place n length + 1)) = place n length := by
  unfold place
  split <;> omega

theorem setItem_setItem (value : Value) (n : Int) (f g : Value → Value) :
    (value.setItem n f).setItem n g = value.setItem n fun item => g (f item) := by
  rw [setItem_eq value n f, setItem_eq, setItem_eq]
  simp only [items, node, Node.listOrigin, length_alterItem, place_grown, alterItem_alterItem]

theorem setItem_comm (value : Value) {i j : Nat} (h : i ≠ j) (f g : Value → Value) :
    (value.setItem i f).setItem j g = (value.setItem j g).setItem i f := by
  rw [setItem_eq value i f, setItem_eq value j g, setItem_eq, setItem_eq]
  simp only [items, node, Node.listOrigin, place, Int.natCast_nonneg, if_true, Int.toNat_natCast,
    alterItem_comm h]

theorem length_node (value : Value) : value.node.length = value.items.length := by
  cases value <;> rfl

theorem Alike.length_items (h : first.Alike second) :
    first.items.length = second.items.length := by
  rw [← length_node, ← length_node, h.node_eq]

theorem Alike.setItem (h : first.Alike second) (n : Int) {f g : Value → Value}
    (hchange : ∀ x y : Value, x.Alike y → (f x).Alike (g y)) :
    (first.setItem n f).Alike (second.setItem n g) := by
  rw [setItem_eq, setItem_eq, h.node_eq, h.length_items]
  refine alike_iff.2 ⟨?_, fun part => ?_⟩
  · simp only [node, length_alterItem, h.length_items]
  cases part with
  | entry name => exact .of_eq rfl
  | item i =>
      show AlikeParts (alterItem _ f first.items)[i]? (alterItem _ g second.items)[i]?
      rw [getElem?_alterItem, getElem?_alterItem]
      split
      · exact hchange _ _ ((h.item i).getD .nil)
      · split
        · exact (h.item i).getD .nil
        · exact h.item i

/-! ## Ways down -/

theorem Alike.mergedInto (value : Value) (h : AlikeParts x y) :
    (value.mergedInto x).Alike (value.mergedInto y) := by
  cases value with
  | table origin entries => exact Alike.putAll entries (h.getD .emptyTable)
  | _ => exact .refl _

theorem Alike.setSteps (value : Value) (steps : List Step) (h : first.Alike second) :
    (value.setSteps steps first).Alike (value.setSteps steps second) := by
  induction steps generalizing first second with
  | nil => exact .refl value
  | cons step steps ih =>
      cases step with
      | index n => exact h.setItem n fun x y hxy => ih hxy
      | child name =>
          cases steps with
          | nil => exact Alike.put value name h
          | cons next steps => exact h.setEntry rfl fun x y hxy => ih (hxy.getD .nil)

end Value

/-! ## Reading -/

section

variable {first second : Value} {x y : Option Value}

open Value (AlikeParts)

theorem Value.Alike.forall₂_items (h : first.Alike second) :
    List.Forall₂ Value.Alike first.items second.items := by
  refine List.forall₂_iff_get.2 ⟨h.length_items, fun i hfirst hsecond => ?_⟩
  have hitem := h.item i
  rwa [List.getElem?_eq_getElem hfirst, List.getElem?_eq_getElem hsecond] at hitem

theorem Value.Alike.forms (h : first.Alike second) :
    (∃ origin x, first = .scalar origin x ∧ second = .scalar origin x) ∨
    (∃ origin items others, first = .list origin items ∧ second = .list origin others ∧
      List.Forall₂ Value.Alike items others) ∨
    ∃ origin entries others, first = .table origin entries ∧ second = .table origin others := by
  have hitems := h.forall₂_items
  have hnode := h.node_eq
  cases first <;> cases second <;> injection hnode
  case scalar.scalar origin x _ _ horigin hx => exact .inl ⟨origin, x, rfl, by rw [horigin, hx]⟩
  case list.list origin items _ others horigin _ =>
    exact .inr (.inl ⟨origin, items, others, rfl, by rw [horigin], hitems⟩)
  case table.table origin entries _ others horigin =>
    exact .inr (.inr ⟨origin, entries, others, rfl, by rw [horigin]⟩)

theorem decodeText_eq_of_alike (key : Key) (h : first.Alike second) :
    decodeText key first = decodeText key second := by
  obtain ⟨_, _, rfl, rfl⟩ | ⟨_, _, _, rfl, rfl, _⟩ | ⟨_, _, _, rfl, rfl⟩ := h.forms <;> rfl

theorem decodeBool_eq_of_alike (key : Key) (h : first.Alike second) :
    decodeBool key first = decodeBool key second := by
  obtain ⟨_, _, rfl, rfl⟩ | ⟨_, _, _, rfl, rfl, _⟩ | ⟨_, _, _, rfl, rfl⟩ := h.forms <;> rfl

theorem decodeTexts_eq_of_alike (key : Key) (h : first.Alike second) :
    decodeTexts key first = decodeTexts key second := by
  have hmapM {items others : List Value} (h : List.Forall₂ Value.Alike items others) (n : Nat) :
      ((items.zipIdx n).mapM fun p => decodeText (key.add (.index p.2)) p.1) =
        (others.zipIdx n).mapM fun p => decodeText (key.add (.index p.2)) p.1 := by
    induction h generalizing n with
    | nil => rfl
    | cons hitem _ ih =>
        rw [List.zipIdx_cons, List.zipIdx_cons, List.mapM_cons, List.mapM_cons, ih]
        simp only [decodeText_eq_of_alike _ hitem]
  obtain ⟨_, _, rfl, rfl⟩ | ⟨_, _, _, rfl, rfl, hitems⟩ | ⟨_, _, _, rfl, rfl⟩ := h.forms
  · rfl
  · exact hmapM hitems 0
  · rfl

theorem convert_eq_of_alike {α : Type} {decode : Key → Value → Except LoadError α}
    (hdecode : ∀ key first second, Value.Alike first second → decode key first = decode key second)
    (key : Key) (h : AlikeParts x y) :
    decodeFields.convert decode (key, x) = decodeFields.convert decode (key, y) := by
  obtain ⟨rfl, rfl⟩ | ⟨a, b, rfl, rfl, hab⟩ := h.cases
  · rfl
  · simp only [decodeFields.convert, hdecode key a b hab]

theorem decodeFields_eq_of_alike (keys : String → Nat → Key)
    {part other : String → Nat → Option Value}
    (h : ∀ name i, AlikeParts (part name i) (other name i)) (absent : String → LoadError) :
    decodeFields (fun name i => (keys name i, part name i)) absent =
      decodeFields (fun name i => (keys name i, other name i)) absent := by
  have hname := convert_eq_of_alike (fun key _ _ => decodeText_eq_of_alike key)
    (keys "name" 0) (h "name" 0)
  have haliases := convert_eq_of_alike (fun key _ _ => decodeTexts_eq_of_alike key)
    (keys "aliases" 1) (h "aliases" 1)
  have hfilenames := convert_eq_of_alike (fun key _ _ => decodeTexts_eq_of_alike key)
    (keys "filenames" 2) (h "filenames" 2)
  have hreset := convert_eq_of_alike (fun key _ _ => decodeBool_eq_of_alike key)
    (keys "reset_on_newline" 3) (h "reset_on_newline" 3)
  simp only [decodeFields, hname, haliases, hfilenames, hreset]

theorem decodeLexer_eq_of_alike (key : Key) (h : first.Alike second) :
    decodeLexer key first = decodeLexer key second := by
  obtain ⟨_, _, rfl, rfl⟩ | ⟨_, items, others, rfl, rfl, hitems⟩ | ⟨_, _, _, rfl, rfl⟩ := h.forms
  · rfl
  · simp only [decodeLexer, hitems.length_eq]
    exact decodeFields_eq_of_alike (fun _ i => key.add (.index i)) (fun _ i => h.item i) _
  · exact decodeFields_eq_of_alike (fun name _ => key.add (.child name))
      (fun name _ => h.entry? name) _

/-- Configurations that are alike describe the same lexer, or fail with the same error. -/
theorem decodeRoot_eq_of_alike (h : first.Alike second) : decodeRoot first = decodeRoot second := by
  unfold decodeRoot
  obtain ⟨hfirst, hsecond⟩ | ⟨a, b, hfirst, hsecond, hab⟩ := (h.entry? "lexer").cases
  · rw [hfirst, hsecond]
  · rw [hfirst, hsecond]
    exact decodeLexer_eq_of_alike _ hab

end

end RouteHighlight.Config
