import RouteHighlight.Pattern.Basic
import RouteHighlight.Text.Span

/-!
# Matching

A pattern is tried at the very start of a text. Of all the ways to match, the one found is the
first in the order of preference: earlier alternatives before later ones, longer runs before
shorter ones where a run takes as much as it can, and shorter before longer where it takes as
little as it can. A run is not ended where the next character already tells that the rest of the
pattern cannot match; that spares work and changes no match (`run_ahead`).
-/

namespace RouteHighlight

structure Extent where
  start : Nat
  stop : Nat
  deriving DecidableEq, Repr

def Extent.of (extent : Extent) (text : List Char) : List Char :=
  (text.take extent.stop).drop extent.start

def Extent.span (extent : Extent) (base : Nat) (text : List Char) : Text.Span :=
  ⟨base + Text.byteLength (text.take extent.start),
    base + Text.byteLength (text.take extent.stop)⟩

/-- A match at the start of a text: the number of characters matched, and the groups in the
order in which they closed. -/
structure Match where
  size : Nat
  groups : List Extent
  deriving DecidableEq, Repr

def Match.whole (m : Match) : Extent := ⟨0, m.size⟩

namespace Pattern

structure Cursor where
  taken : Nat
  rest : List Char
  groups : List Extent

def first? : Pattern → Option Char
  | .one (.exactly c) => some c
  | .seq p _ => p.first?
  | .group p => p.first?
  | _ => none

def beginsWith : Option Char → List Char → Bool
  | none, _ => true
  | some d, c :: _ => c == d
  | some _, [] => false

/-- Takes as many characters of a class as let `next` succeed, which is asked only where the text
goes on with `ahead`. -/
def takeMost {α : Type} (cls : CharClass) (ahead : Option Char)
    (next : Nat → List Char → Option α) : Nat → List Char → Option α
  | taken, [] => if beginsWith ahead [] then next taken [] else none
  | taken, text@(c :: cs) =>
    if cls.test c then
      (takeMost cls ahead next (taken + 1) cs).or
        (if beginsWith ahead text then next taken text else none)
    else if beginsWith ahead text then next taken text else none

def takeLeast {α : Type} (cls : CharClass) (next : Nat → List Char → Option α) :
    Nat → List Char → Option α
  | taken, [] => next taken []
  | taken, text@(c :: cs) =>
    (next taken text).or (if cls.test c then takeLeast cls next (taken + 1) cs else none)

/-- Matches a pattern at a cursor so that what follows, `next`, succeeds too. Where `next` can
succeed only before one character, `ahead` may say so. -/
def run {α : Type} : Pattern → Option Char → (Cursor → Option α) → Cursor → Option α
  | .empty, _, next, cur => next cur
  | .one cls, _, next, cur =>
    match cur.rest with
    | [] => none
    | c :: cs => if cls.test c then next ⟨cur.taken + 1, cs, cur.groups⟩ else none
  | .seq p q, ahead, next, cur => p.run q.first? (q.run ahead next) cur
  | .alt p q, ahead, next, cur => (p.run ahead next cur).or (q.run ahead next cur)
  | .many cls, ahead, next, cur =>
    match cur.rest with
    | [] => none
    | c :: cs =>
      if cls.test c then
        takeMost cls ahead (fun taken rest => next ⟨taken, rest, cur.groups⟩) (cur.taken + 1) cs
      else none
  | .few cls, _, next, cur =>
    takeLeast cls (fun taken rest => next ⟨taken, rest, cur.groups⟩) cur.taken cur.rest
  | .group p, ahead, next, cur =>
    p.run ahead (fun after =>
      next { after with groups := after.groups ++ [⟨cur.taken, after.taken⟩] }) cur
  | .lineEnd, _, next, cur =>
    match cur.rest with
    | [] => next cur
    | c :: _ => if c = '\n' then next cur else none

def Expects {α : Type} (ahead : Option Char) (next : Cursor → Option α) : Prop :=
  ∀ cur, next cur ≠ none → beginsWith ahead cur.rest = true

theorem expects_first? {α : Type} (p : Pattern) (ahead : Option Char)
    (next : Cursor → Option α) : Expects p.first? (p.run ahead next) := by
  intro cur h
  induction p generalizing ahead next with
  | one cls =>
    cases cls with
    | exactly c => cases hrest : cur.rest <;> simp_all [run, first?, beginsWith, CharClass.test]
    | _ => rfl
  | seq p q ihp => exact ihp _ _ h
  | group p ih => exact ih _ _ h
  | _ => rfl

theorem takeMost_eq {α : Type} (cls : CharClass) {ahead : Option Char}
    {next : Nat → List Char → Option α}
    (h : ∀ taken rest, next taken rest ≠ none → beginsWith ahead rest = true) (taken : Nat)
    (cs : List Char) : takeMost cls ahead next taken cs = takeMost cls none next taken cs := by
  have asked (taken : Nat) (rest : List Char) :
      (if beginsWith ahead rest then next taken rest else none) = next taken rest := by
    grind
  induction cs generalizing taken with
  | nil => simp only [takeMost, asked]; rfl
  | cons c cs ih => simp only [takeMost, asked, ih]; rfl

/-- What is known about the text ahead spares attempts and changes nothing else. -/
theorem run_ahead {α : Type} (p : Pattern) {ahead : Option Char} {next : Cursor → Option α}
    (h : Expects ahead next) (cur : Cursor) : p.run ahead next cur = p.run none next cur := by
  induction p generalizing ahead next cur with
  | seq p q ihp ihq =>
    have hq : q.run ahead next = q.run none next := funext (ihq h)
    simp only [run, hq]
  | alt p q ihp ihq => simp only [run, ihp h, ihq h]
  | many cls =>
    unfold run
    split
    · rfl
    · rw [takeMost_eq cls fun taken rest => h ⟨taken, rest, cur.groups⟩]
  | group p ih =>
    refine ih ?_ cur
    intro after hafter
    have := h _ hafter
    exact this
  | _ => rfl

theorem run_seq {α : Type} (p q : Pattern) (next : Cursor → Option α) (cur : Cursor) :
    (seq p q).run none next cur = p.run none (q.run none next) cur :=
  p.run_ahead (q.expects_first? none next) cur

def match? (p : Pattern) (text : List Char) : Option Match :=
  p.run none (fun cur => some ⟨cur.taken, cur.groups⟩) ⟨0, text, []⟩

end Pattern

end RouteHighlight
