/-!
# Byte spans

Places in a text are counted in bytes of its UTF-8 form. A span that does not begin and end
between two characters of a text has no slice there.
-/

namespace RouteHighlight.Text

def byteLength : List Char → Nat
  | [] => 0
  | c :: cs => c.utf8Size + byteLength cs

@[simp] theorem byteLength_nil : byteLength [] = 0 := rfl

@[simp] theorem byteLength_cons (c : Char) (cs : List Char) :
    byteLength (c :: cs) = c.utf8Size + byteLength cs := rfl

@[simp] theorem byteLength_append (xs ys : List Char) :
    byteLength (xs ++ ys) = byteLength xs + byteLength ys := by
  induction xs with
  | nil => simp
  | cons c cs ih => simp [ih, Nat.add_assoc]

structure Span where
  start : Nat
  stop : Nat
  deriving DecidableEq, Repr

/-- What is left of the characters after exactly `n` bytes, if `n` bytes end a character. -/
def dropBytes? (n : Nat) : List Char → Option (List Char)
  | [] => if n = 0 then some [] else none
  | c :: cs =>
    if n = 0 then some (c :: cs)
    else if c.utf8Size ≤ n then dropBytes? (n - c.utf8Size) cs
    else none

def takeBytes? (n : Nat) : List Char → Option (List Char)
  | [] => if n = 0 then some [] else none
  | c :: cs =>
    if n = 0 then some []
    else if c.utf8Size ≤ n then (takeBytes? (n - c.utf8Size) cs).map (c :: ·)
    else none

theorem dropBytes?_byteLength (xs ys : List Char) :
    dropBytes? (byteLength xs) (xs ++ ys) = some ys := by
  induction xs with
  | nil => cases ys <;> simp [dropBytes?]
  | cons c cs ih =>
      have hc := c.utf8Size_pos
      simp [dropBytes?, ih, Nat.ne_of_gt hc]

theorem takeBytes?_byteLength (xs ys : List Char) :
    takeBytes? (byteLength xs) (xs ++ ys) = some xs := by
  induction xs with
  | nil => cases ys <;> simp [takeBytes?]
  | cons c cs ih =>
      have hc := c.utf8Size_pos
      simp [takeBytes?, ih, Nat.ne_of_gt hc]

theorem dropBytes?_add {a b : Nat} {cs rest : List Char} (h : dropBytes? a cs = some rest) :
    dropBytes? (a + b) cs = dropBytes? b rest := by
  induction cs generalizing a with
  | nil => grind [dropBytes?]
  | cons c cs ih =>
    simp only [dropBytes?] at h ⊢
    split at h
    next ha =>
      cases h
      simp [ha, dropBytes?]
    next ha =>
      split at h
      next hc =>
        have := ih h
        grind
      next => cases h

/-- The slice of a text at a span. There is none if the span runs backwards, reaches past the
end, or begins or ends inside a character. -/
def Span.slice? (span : Span) (source : String) : Option String :=
  if span.stop < span.start then none
  else do
    let rest ← dropBytes? span.start source.toList
    let slice ← takeBytes? (span.stop - span.start) rest
    return String.ofList slice

/-- A place in a text: the number of bytes before it and the characters behind it. -/
structure Place (text : List Char) where
  offset : Nat
  rest : List Char
  rest_eq : dropBytes? offset text = some rest

namespace Place

def start (text : List Char) : Place text := ⟨0, text, by cases text <;> rfl⟩

theorem dropBytes?_rest {text : List Char} (here : Place text) {offset : Nat}
    (ahead : here.offset ≤ offset) :
    dropBytes? (offset - here.offset) here.rest = dropBytes? offset text := by
  rw [← dropBytes?_add here.rest_eq, Nat.add_sub_cancel' ahead]

/-- The place after so many bytes, if they end a character. It is looked for from here, and from
the beginning if it is not ahead. -/
def seek? {text : List Char} (here : Place text) (offset : Nat) : Option (Place text) :=
  if ahead : here.offset ≤ offset then
    match found : dropBytes? (offset - here.offset) here.rest with
    | some rest => some ⟨offset, rest, here.dropBytes?_rest ahead ▸ found⟩
    | none => none
  else
    match found : dropBytes? offset text with
    | some rest => some ⟨offset, rest, found⟩
    | none => none

theorem map_rest_seek? {text : List Char} (here : Place text) (offset : Nat) :
    (here.seek? offset).map (·.rest) = dropBytes? offset text := by
  unfold seek?
  split
  next ahead =>
    rw [← here.dropBytes?_rest ahead]
    split <;> simp_all
  next => split <;> simp_all

end Place

def Span.after (before text : List Char) : Span :=
  ⟨byteLength before, byteLength before + byteLength text⟩

theorem Span.slice?_after (before text rest : List Char) :
    (Span.after before text).slice? (String.ofList (before ++ (text ++ rest))) =
      some (String.ofList text) := by
  simp [Span.slice?, Span.after, dropBytes?_byteLength, takeBytes?_byteLength]

end RouteHighlight.Text
