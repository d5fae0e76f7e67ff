import RouteHighlight.Proofs.Json.Lexemes

/-!
# Written values are read back

Whatever the layout, a value that is not nested too deep is read from its own text.  Blanks may
stand in front of it, and anything behind it that does not carry on a number.
-/

namespace RouteHighlight.Json

open Text Text.Reader

/-! ## Layouts and depth -/

/-- A layout only sets things apart: blanks before the lines, and around the colon behind it. -/
structure Layout.Blank (layout : Layout) : Prop where
  line : ∀ level, ∀ c ∈ layout.line level, isSpace c = true
  colon : ∃ after, layout.colon = ':' :: after ∧ ∀ c ∈ after, isSpace c = true

theorem Layout.blank_pretty : Layout.pretty.Blank where
  line level c hc := by
    rcases List.mem_cons.1 hc with rfl | hc
    · rfl
    · rw [List.eq_of_mem_replicate hc]
      rfl
  colon := ⟨[' '], rfl, List.forall_mem_singleton.2 rfl⟩

inductive Value.Within : Nat → Value → Prop where
  | null {n : Nat} : Within (n + 1) .null
  | bool {n : Nat} (b : Bool) : Within (n + 1) (.bool b)
  | int {n : Nat} (k : Int) : Within (n + 1) (.int k)
  | decimal {n : Nat} (d : Decimal) : Within (n + 1) (.decimal d)
  | str {n : Nat} (s : String) : Within (n + 1) (.str s)
  | arr {n : Nat} {items : List Value} (h : ∀ item ∈ items, Within n item) :
      Within (n + 1) (.arr items)
  | obj {n : Nat} {fields : List (String × Value)} (h : ∀ field ∈ fields, Within n field.2) :
      Within (n + 1) (.obj fields)

/-! ## Lists of items -/

section Items

variable {α : Type} {reader : Reader α} {write : α → List Char} {items : List α}
  {blanks text rest : List Char} {a : α} {closing : Char}

theorem takes_lexeme (hblanks : ∀ c ∈ blanks, isSpace c = true)
    (hstops : Stops isSpace (text ++ rest)) (h : Takes reader text a rest) :
    Takes (lexeme reader) (blanks ++ text) a rest :=
  (takes_takeWhile ⟨hblanks, hstops⟩).bind h

theorem takes_lexeme_here (hstops : Stops isSpace (text ++ rest)) (h : Takes reader text a rest) :
    Takes (lexeme reader) text a rest := by
  have hblanks : ∀ c ∈ [], isSpace c = true := nofun
  exact takes_lexeme hblanks hstops h

theorem refuses_lexeme (hblanks : ∀ c ∈ blanks, isSpace c = true) (hstops : Stops isSpace rest)
    (h : Refuses reader rest) : Refuses (lexeme reader) (blanks ++ rest) :=
  (takes_takeWhile ⟨hblanks, hstops⟩).refuses h

theorem refuses_lexeme_here (hstops : Stops isSpace rest) (h : Refuses reader rest) :
    Refuses (lexeme reader) rest := by
  have hblanks : ∀ c ∈ [], isSpace c = true := nofun
  exact refuses_lexeme hblanks hstops h

theorem takes_comma (rest : List Char) : Takes (lexeme (char ',')) [','] () rest :=
  takes_lexeme_here (stops_cons.2 rfl) (takes_char ',' rest)

theorem endsNumber_comma (rest : List Char) : EndsNumber (',' :: rest) := by
  rw [EndsNumber, stops_cons]
  rfl

theorem endsNumber_of_isSpace (hblanks : ∀ c ∈ blanks, isSpace c = true)
    (hrest : EndsNumber rest) : EndsNumber (blanks ++ rest) := by
  cases blanks with
  | nil => exact hrest
  | cons c cs =>
      have hc : isSpace c = true := hblanks c List.mem_cons_self
      rw [EndsNumber, List.cons_append, stops_cons]
      simp only [isSpace, Bool.or_eq_true, beq_iff_eq] at hc
      rcases hc with ((rfl | rfl) | rfl) | rfl <;> rfl

theorem intercalate_cons (c : Char) (first : List Char) (others : List (List Char)) :
    [c].intercalate (first :: others) = first ++ others.flatMap (c :: ·) := by
  induction others generalizing first with
  | nil => simp
  | cons second others ih =>
      rw [List.intercalate_cons_cons, ih, List.flatMap_cons]
      simp

theorem takes_sepBy1 (hne : items ≠ [])
    (hread : ∀ item ∈ items, ∀ rest, EndsNumber rest → Takes reader (write item) item rest)
    (hrest : EndsNumber rest) (hcomma : Refuses (lexeme (char ',')) rest) :
    Takes (sepBy1 reader (lexeme (char ','))) ([','].intercalate (items.map write)) items rest := by
  have hothers (others : List α)
      (hread : ∀ item ∈ others, ∀ rest, EndsNumber rest → Takes reader (write item) item rest) :
      Takes (many (do let _ ← lexeme (char ','); reader)) (others.flatMap fun x => ',' :: write x)
          others rest ∧
        EndsNumber ((others.flatMap fun x => ',' :: write x) ++ rest) := by
    induction others with
    | nil => exact ⟨(hcomma.bind _).many, hrest⟩
    | cons item others ih =>
        obtain ⟨hitem, hothers⟩ := List.forall_mem_cons.1 hread
        obtain ⟨htakes, hends⟩ := ih hothers
        refine ⟨?_, endsNumber_comma _⟩
        exact ((takes_comma _).bind (hitem _ hends)).many (List.cons_ne_nil _ _) htakes
  cases items with
  | nil => exact absurd rfl hne
  | cons item items =>
      obtain ⟨hitem, hitems⟩ := List.forall_mem_cons.1 hread
      obtain ⟨htakes, hends⟩ := hothers items hitems
      rw [List.map_cons, intercalate_cons, List.flatMap_map]
      exact (hitem _ hends).bind (htakes.last (takes_pure _ rest))

theorem takes_close (hblanks : ∀ c ∈ blanks, isSpace c = true) (hclosing : isSpace closing = false)
    (rest : List Char) : Takes (lexeme (char closing)) (blanks ++ [closing]) () rest :=
  takes_lexeme hblanks (stops_cons.2 hclosing) (takes_char closing rest)

theorem takes_listOf_nil (opening : Char) (hclosing : isSpace closing = false)
    (h : Refuses reader (closing :: rest)) :
    Takes (listOf opening closing reader) [opening, closing] [] rest := by
  change Takes _ ([opening] ++ [closing]) [] rest
  refine (takes_char opening _).bind ((h.bind _).maybe.ahead ?_)
  have hclose := takes_lexeme_here (stops_cons.2 hclosing) (takes_char closing rest)
  exact hclose.last (takes_pure _ rest)

theorem takes_listOf (opening : Char) (hclosing : closing = ']' ∨ closing = '\x7d')
    (hblanks : ∀ c ∈ blanks, isSpace c = true) (hne : items ≠ [])
    (hread : ∀ item ∈ items, ∀ rest, EndsNumber rest → Takes reader (write item) item rest) :
    Takes (listOf opening closing reader)
      (opening :: ([','].intercalate (items.map write) ++ blanks ++ [closing])) items rest := by
  have hstops : Stops isSpace (closing :: rest) := by
    rcases hclosing with rfl | rfl <;> exact stops_cons.2 rfl
  have hends : EndsNumber (closing :: rest) := by
    rcases hclosing with rfl | rfl <;> exact stops_cons.2 rfl
  have hcomma : Refuses (lexeme (char ',')) (blanks ++ (closing :: rest)) := by
    refine refuses_lexeme hblanks hstops (refuses_char ?_)
    rcases hclosing with rfl | rfl <;> exact stops_cons.2 rfl
  have hitems := takes_sepBy1 hne hread (endsNumber_of_isSpace hblanks hends) hcomma
  rw [List.append_assoc]
  refine (takes_char opening _).bind ?_
  refine Takes.bind (by simpa using hitems.maybe) ?_
  exact (takes_close hblanks (stops_cons.1 hstops) rest).last (takes_pure items rest)

end Items

/-! ## Values -/

variable {layout : Layout} {v : Value} {n level : Nat} {blanks rest : List Char}

def itemChars (layout : Layout) (level : Nat) (item : Value) : List Char :=
  layout.line level ++ item.chars layout level

def fieldChars (layout : Layout) (level : Nat) (field : String × Value) : List Char :=
  layout.line level ++ stringText field.1 ++ layout.colon ++ field.2.chars layout level

theorem itemsChars_eq (layout : Layout) (level : Nat) (items : List Value) :
    Value.itemsChars layout level items =
      [','].intercalate (items.map (itemChars layout level)) := by
  induction items with
  | nil => rfl
  | cons item items ih =>
      cases items with
      | nil => simp [Value.itemsChars, itemChars]
      | cons other items =>
          rw [Value.itemsChars, ih]
          · simp only [List.map_cons, List.intercalate_cons_cons]
            simp [itemChars]
          · exact List.cons_ne_nil _ _

theorem fieldsChars_eq (layout : Layout) (level : Nat) (fields : List (String × Value)) :
    Value.fieldsChars layout level fields =
      [','].intercalate (fields.map (fieldChars layout level)) := by
  induction fields with
  | nil => rfl
  | cons field fields ih =>
      obtain ⟨name, value⟩ := field
      cases fields with
      | nil => simp [Value.fieldsChars, fieldChars]
      | cons other fields =>
          rw [Value.fieldsChars, ih]
          · simp only [List.map_cons, List.intercalate_cons_cons]
            simp [fieldChars]
          · exact List.cons_ne_nil _ _

theorem exists_head_signed (negative : Bool) (n : Nat) (more : List Char) :
    ∃ c cs, signText negative ++ (Decimal.digitsText n ++ more) = c :: cs ∧
      (c = '-' ∨ isDigit c = true) := by
  cases negative with
  | true => exact ⟨_, _, rfl, .inl rfl⟩
  | false =>
      obtain ⟨c, cs, htext, hc⟩ := exists_digit n more
      exact ⟨c, cs, htext, .inr hc⟩

theorem not_isSpace_of_head {c : Char} (h : c = '-' ∨ isDigit c = true) : isSpace c = false := by
  rw [← Bool.not_eq_true]
  intro hspace
  simp only [isSpace, Bool.or_eq_true, beq_iff_eq] at hspace
  rcases hspace with ((rfl | rfl) | rfl) | rfl <;> exact absurd h (by decide)

theorem takes_value_of_number {text : List Char}
    (hhead : ∃ c cs, text ++ rest = c :: cs ∧ (c = '-' ∨ isDigit c = true))
    (hblanks : ∀ c ∈ blanks, isSpace c = true) (h : Takes number text v rest) :
    Takes (value (n + 1)) (blanks ++ text) v rest := by
  obtain ⟨c, cs, htext, hc⟩ := hhead
  have hstops : Stops isSpace (text ++ rest) := by
    rw [htext]
    exact stops_cons.2 (not_isSpace_of_head hc)
  refine takes_lexeme hblanks hstops ((takes_peek _).ahead ?_)
  rw [htext]
  split
  case h_7 => exact h
  all_goals
    next heq =>
      cases heq
      exact absurd hc (by decide)

theorem refuses_value (n : Nat) (rest : List Char) : Refuses (value n) (']' :: rest) := by
  cases n with
  | zero => rfl
  | succ n =>
      refine refuses_lexeme_here (stops_cons.2 rfl) ?_
      have hpeek : Takes peek [] (some ']') (']' :: rest) := takes_peek (']' :: rest)
      refine hpeek.refuses ?_
      have hsign : Takes (sign false) [] false (']' :: rest) := rfl
      have hdigits : Refuses wholeDigits (']' :: rest) :=
        (refuses_takeWhile1 (stops_cons.2 rfl)).bind _
      exact hsign.refuses (hdigits.bind _)

theorem takes_value_of_list {text : List Char} {items : List Value}
    (hblanks : ∀ c ∈ blanks, isSpace c = true)
    (h : Takes (listOf '[' ']' (value n)) ('[' :: text) items rest) :
    Takes (value (n + 1)) (blanks ++ '[' :: text) (.arr items) rest := by
  refine takes_lexeme hblanks (stops_cons.2 rfl) ((takes_peek _).ahead ?_)
  exact h.last (takes_pure _ rest)

theorem takes_arr {items : List Value} (hlayout : layout.Blank)
    (hblanks : ∀ c ∈ blanks, isSpace c = true)
    (hread : ∀ item ∈ items, ∀ rest, EndsNumber rest →
      Takes (value n) (itemChars layout (level + 1) item) item rest) :
    Takes (value (n + 1)) (blanks ++ (Value.arr items).chars layout level) (.arr items) rest := by
  cases items with
  | nil =>
      rw [Value.chars]
      exact takes_value_of_list hblanks (takes_listOf_nil '[' rfl (refuses_value n rest))
  | cons item items =>
      rw [Value.chars, itemsChars_eq]
      apply takes_value_of_list hblanks
      exact takes_listOf '[' (.inl rfl) (hlayout.line level) (List.cons_ne_nil _ _) hread

def fieldReader (n : Nat) : Reader (String × Value) := do
  let name ← lexeme string
  lexeme (char ':')
  let content ← value n
  return (name, content)

theorem takes_field {field : String × Value} (hlayout : layout.Blank)
    (hread : ∀ blanks, (∀ c ∈ blanks, isSpace c = true) →
      Takes (value n) (blanks ++ field.2.chars layout level) field.2 rest) :
    Takes (fieldReader n) (fieldChars layout level field) field rest := by
  obtain ⟨after, hcolon, hafter⟩ := hlayout.colon
  have htext : fieldChars layout level field = (layout.line level ++ stringText field.1) ++
      ([':'] ++ (after ++ field.2.chars layout level)) := by
    simp [fieldChars, hcolon]
  rw [htext]
  refine (takes_lexeme (hlayout.line level) (stops_cons.2 rfl) (takes_string _ _)).bind ?_
  refine (takes_lexeme_here (stops_cons.2 rfl) (takes_char ':' _)).bind ?_
  exact (hread after hafter).last (takes_pure field rest)

theorem refuses_field (n : Nat) (rest : List Char) : Refuses (fieldReader n) ('\x7d' :: rest) := by
  have hstring : Refuses string ('\x7d' :: rest) := (refuses_char (stops_cons.2 rfl)).bind _
  exact (refuses_lexeme_here (stops_cons.2 rfl) hstring).bind _

theorem takes_value_of_fields {text : List Char} {fields : List (String × Value)}
    (hblanks : ∀ c ∈ blanks, isSpace c = true)
    (h : Takes (listOf '\x7b' '\x7d' (fieldReader n)) ('\x7b' :: text) fields rest) :
    Takes (value (n + 1)) (blanks ++ '\x7b' :: text) (.obj fields) rest := by
  refine takes_lexeme hblanks (stops_cons.2 rfl) ((takes_peek _).ahead ?_)
  exact h.last (takes_pure _ rest)

theorem takes_obj {fields : List (String × Value)} (hlayout : layout.Blank)
    (hblanks : ∀ c ∈ blanks, isSpace c = true)
    (hread : ∀ field ∈ fields, ∀ rest, EndsNumber rest →
      Takes (fieldReader n) (fieldChars layout (level + 1) field) field rest) :
    Takes (value (n + 1)) (blanks ++ (Value.obj fields).chars layout level) (.obj fields)
      rest := by
  cases fields with
  | nil =>
      rw [Value.chars]
      exact takes_value_of_fields hblanks (takes_listOf_nil '\x7b' rfl (refuses_field n rest))
  | cons field fields =>
      rw [Value.chars, fieldsChars_eq]
      apply takes_value_of_fields hblanks
      exact takes_listOf '\x7b' (.inr rfl) (hlayout.line level) (List.cons_ne_nil _ _) hread

theorem takes_value (hlayout : layout.Blank) (hv : v.Within n)
    (hblanks : ∀ c ∈ blanks, isSpace c = true) (hrest : EndsNumber rest) :
    Takes (value n) (blanks ++ v.chars layout level) v rest := by
  induction n generalizing v blanks level rest with
  | zero => cases hv
  | succ n ih =>
      cases hv with
      | null =>
          refine takes_lexeme hblanks (stops_cons.2 rfl) ((takes_peek _).ahead ?_)
          exact (takes_literal "null".toList rest).last (takes_pure _ rest)
      | bool b =>
          cases b with
          | true =>
              refine takes_lexeme hblanks (stops_cons.2 rfl) ((takes_peek _).ahead ?_)
              exact (takes_literal "true".toList rest).last (takes_pure _ rest)
          | false =>
              refine takes_lexeme hblanks (stops_cons.2 rfl) ((takes_peek _).ahead ?_)
              exact (takes_literal "false".toList rest).last (takes_pure _ rest)
      | int k =>
          refine takes_value_of_number ?_ hblanks (takes_number_int k hrest)
          rw [Value.chars, intText_eq, List.append_assoc]
          exact exists_head_signed _ _ rest
      | decimal d =>
          refine takes_value_of_number ?_ hblanks (takes_number_decimal d hrest.stops_isDigit)
          rw [Value.chars, decimalText_eq, List.append_assoc, List.append_assoc]
          exact exists_head_signed _ _ _
      | str s =>
          refine takes_lexeme hblanks (stops_cons.2 rfl) ((takes_peek _).ahead ?_)
          exact (takes_string s rest).last (takes_pure _ rest)
      | @arr _ items hitems =>
          exact takes_arr hlayout hblanks fun item hmem rest hrest =>
            ih (hitems item hmem) (hlayout.line _) hrest
      | @obj _ fields hfields =>
          exact takes_obj hlayout hblanks fun field hmem rest hrest =>
            takes_field hlayout fun blanks hblanks => ih (hfields field hmem) hblanks hrest

/-- A value that is not nested too deep is read back from its text, in any layout. -/
theorem parse?_chars (hlayout : layout.Blank) (hv : v.Within maxDepth) :
    parse? (String.ofList (v.chars layout level)) = some v := by
  have hread : Takes (value maxDepth) ([] ++ v.chars layout level) v [] :=
    takes_value hlayout hv nofun stops_nil
  have hfinish : Takes (lexeme finish) [] () [] :=
    takes_lexeme_here stops_nil takes_finish
  rw [parse?, String.toList_ofList]
  exact (hread.last (hfinish.last (takes_pure v []))).readAll?

theorem parse?_pretty (hv : v.Within maxDepth) : parse? v.pretty = some v :=
  parse?_chars Layout.blank_pretty hv

end RouteHighlight.Json
