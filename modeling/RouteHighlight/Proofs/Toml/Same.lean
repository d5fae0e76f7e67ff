import RouteHighlight.Toml.Document

/-!
# Comparing the values of documents

There is no decidable equality on values, since some of them hold floats.  The comparison here holds
of no floats, nor of dates and times, and of other values only if they are equal.  With it, what a
document says can be found out by evaluation.
-/

namespace RouteHighlight.Toml

namespace Value

mutual

def same : Value → Value → Bool
  | .text s, .text t => s == t
  | .int m, .int n => m == n
  | .bool b, .bool c => b == c
  | .array items, .array others => sameItems items others
  | .table entries, .table others => sameEntries entries others
  | _, _ => false

def sameItems : List Value → List Value → Bool
  | [], [] => true
  | item :: items, other :: others => item.same other && sameItems items others
  | _, _ => false

def sameEntries : List (String × Value) → List (String × Value) → Bool
  | [], [] => true
  | (name, value) :: entries, (label, other) :: others =>
    name == label && value.same other && sameEntries entries others
  | _, _ => false

end

mutual

theorem eq_of_same {value other : Value} (h : value.same other = true) : value = other := by
  cases value with
  | text s =>
      cases other with
      | text t => exact congrArg Value.text (eq_of_beq h)
      | _ => exact absurd h Bool.false_ne_true
  | int n =>
      cases other with
      | int m => exact congrArg Value.int (eq_of_beq h)
      | _ => exact absurd h Bool.false_ne_true
  | bool b =>
      cases other with
      | bool c => exact congrArg Value.bool (eq_of_beq h)
      | _ => exact absurd h Bool.false_ne_true
  | array items =>
      cases other with
      | array others => exact congrArg Value.array (eq_of_sameItems h)
      | _ => exact absurd h Bool.false_ne_true
  | table entries =>
      cases other with
      | table others => exact congrArg Value.table (eq_of_sameEntries h)
      | _ => exact absurd h Bool.false_ne_true
  | float => exact absurd h Bool.false_ne_true
  | dateTime => exact absurd h Bool.false_ne_true

theorem eq_of_sameItems {items others : List Value} (h : sameItems items others = true) :
    items = others := by
  cases items with
  | nil =>
      cases others with
      | nil => rfl
      | cons => exact absurd h Bool.false_ne_true
  | cons item items =>
      cases others with
      | nil => exact absurd h Bool.false_ne_true
      | cons other others =>
          obtain ⟨hitem, hitems⟩ := Bool.and_eq_true_iff.1 h
          rw [eq_of_same hitem, eq_of_sameItems hitems]

theorem eq_of_sameEntries {entries others : List (String × Value)}
    (h : sameEntries entries others = true) : entries = others := by
  cases entries with
  | nil =>
      cases others with
      | nil => rfl
      | cons => exact absurd h Bool.false_ne_true
  | cons p entries =>
      cases others with
      | nil => exact absurd h Bool.false_ne_true
      | cons q others =>
          obtain ⟨hp, hentries⟩ := Bool.and_eq_true_iff.1 h
          obtain ⟨hname, hvalue⟩ := Bool.and_eq_true_iff.1 hp
          rw [eq_of_sameEntries hentries, Prod.ext (eq_of_beq hname) (eq_of_same hvalue)]

end

end Value

/-- What a document says, if it holds neither floats nor dates and times. -/
theorem parse?_eq_some {text : String} {entries : List (String × Value)}
    (h : (parse? text).any (Value.sameEntries · entries) = true) : parse? text = some entries := by
  cases hparse : parse? text with
  | none => simp [hparse] at h
  | some found =>
      rw [hparse] at h
      exact congrArg some (Value.eq_of_sameEntries h)

end RouteHighlight.Toml
