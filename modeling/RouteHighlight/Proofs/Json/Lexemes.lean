import RouteHighlight.Json.Parser
import RouteHighlight.Json.Printer
import RouteHighlight.Proofs.Text.Taking

/-!
# Strings and numbers in JSON

A string is read back from its quotes and escapes, and a number from its digits.  Every escape is
read as the code of the one character that it stands for, so that no text of a string can end it or
pass for an escape.
-/

namespace RouteHighlight.Json

open Text Text.Reader

variable {rest : List Char}

/-! ## Strings -/

private theorem digitChar_of_lt : ∀ d < 16,
    digitValue (Nat.digitChar d) = d ∧ isHexDigit (Nat.digitChar d) = true := by
  decide

private theorem digitValue_hexDigit (n : Nat) : digitValue (hexDigit n) = n % 16 :=
  (digitChar_of_lt (n % 16) (Nat.mod_lt n (by decide))).1

private theorem isHexDigit_hexDigit (n : Nat) : isHexDigit (hexDigit n) = true :=
  (digitChar_of_lt (n % 16) (Nat.mod_lt n (by decide))).2

private theorem hexDigits_of_control {n : Nat} (h : n < 0x20) :
    digitsValue 16 ['0', '0', hexDigit (n / 16), hexDigit n] = n ∧
      ∀ c ∈ ['0', '0', hexDigit (n / 16), hexDigit n], isHexDigit c = true := by
  have hzero : digitValue '0' = 0 := by decide
  constructor
  · simp only [digitsValue, List.foldl_cons, List.foldl_nil, digitValue_hexDigit, hzero]
    omega
  · simp only [List.forall_mem_cons, isHexDigit_hexDigit]
    exact ⟨by decide, by decide, trivial, trivial, nofun⟩

private theorem takes_codeUnit_control {n : Nat} (h : n < 0x20) (rest : List Char) :
    Takes codeUnit ['\\', 'u', '0', '0', hexDigit (n / 16), hexDigit n] n rest := by
  obtain ⟨hvalue, hdigits⟩ := hexDigits_of_control h
  have hcode : Takes (do return digitsValue 16 (← exactly isHexDigit 4))
      ['0', '0', hexDigit (n / 16), hexDigit n] n rest := by
    refine (takes_exactly hdigits rest).last ?_
    rw [hvalue]
    exact takes_pure n rest
  exact hcode

private theorem takes_codeUnit_plain {c : Char} (hquote : c ≠ '"') (hslash : c ≠ '\\')
    (h : ¬ c.toNat < 0x20) (rest : List Char) : Takes codeUnit [c] c.toNat rest := by
  have htest : (decide (0x20 ≤ c.toNat) && c != '"') = true := by
    rw [Bool.and_eq_true, decide_eq_true_eq, bne_iff_ne]
    exact ⟨Nat.le_of_not_lt h, hquote⟩
  refine (takes_oneOf _ htest rest).last ?_
  split
  next => contradiction
  next => exact takes_pure _ rest

theorem takes_codeUnit (c : Char) (rest : List Char) :
    Takes codeUnit (escapeChar c) c.toNat rest := by
  unfold escapeChar
  split
  case h_8 hquote hslash _ _ _ _ _ =>
    split
    next hcontrol => exact takes_codeUnit_control hcontrol rest
    next hplain => exact takes_codeUnit_plain hquote hslash hplain rest
  all_goals rfl

theorem escapeChar_ne_nil (c : Char) : escapeChar c ≠ [] := by
  unfold escapeChar
  split
  case h_8 => split <;> exact List.cons_ne_nil _ _
  all_goals exact List.cons_ne_nil _ _

theorem takes_codeUnits (cs rest : List Char) :
    Takes (many codeUnit) (cs.flatMap escapeChar) (cs.map Char.toNat) ('"' :: rest) := by
  induction cs with
  | nil =>
      have hquote : Refuses codeUnit ('"' :: rest) := (refuses_oneOf (by simp)).bind _
      exact hquote.many
  | cons c cs ih => exact (takes_codeUnit c _).many (escapeChar_ne_nil c) ih

/-- No character is a surrogate, so every code unit stands for itself. -/
theorem joinUnits_map_toNat (cs : List Char) : joinUnits (cs.map Char.toNat) = some cs := by
  induction cs with
  | nil => rfl
  | cons c cs ih =>
      have hvalid : c.toNat.isValidChar := c.valid
      have hsurrogate : ¬ (0xD800 ≤ c.toNat ∧ c.toNat < 0xDC00) := by
        unfold Nat.isValidChar at hvalid
        omega
      have hcode : charOfCode? c.toNat = some c := by
        rw [charOfCode?, if_pos hvalid, Char.ofNat_toNat]
      simp only [List.map_cons]
      unfold joinUnits
      simp [hsurrogate, hcode, ih]

theorem takes_string (s : String) (rest : List Char) : Takes string (stringText s) s rest := by
  have hclose : Takes (do char '"'; let cs ← joinUnits (s.toList.map Char.toNat)
                          return String.ofList cs) ['"'] s rest := by
    refine (takes_char '"' rest).last ?_
    rw [joinUnits_map_toNat]
    exact congrArg (fun s => some (s, _)) String.ofList_toList
  exact (takes_char '"' _).bind ((takes_codeUnits s.toList rest).bind hclose)

/-! ## Numbers -/

theorem isDigit_of_mem_digitsText {n : Nat} {c : Char} (h : c ∈ Decimal.digitsText n) :
    isDigit c = true := by
  have hdigit : c.isDigit = true := Nat.isDigit_of_mem_toDigits (by decide) (by decide) h
  exact hdigit

theorem digitsText_ne_nil (n : Nat) : Decimal.digitsText n ≠ [] := Nat.toDigits_ne_nil

theorem digitsValue_digitsText (n : Nat) : digitsValue 10 (Decimal.digitsText n) = n := by
  have hfold (digits : List Char) (init : Nat) (h : ∀ c ∈ digits, isDigit c = true) :
      digits.foldl (fun n c => n * 10 + digitValue c) init = Nat.ofDigitChars 10 digits init := by
    induction digits generalizing init with
    | nil => rfl
    | cons c cs ih =>
        obtain ⟨hc, hcs⟩ := List.forall_mem_cons.1 h
        have hvalue : digitValue c = c.toNat - '0'.toNat := if_pos hc
        rw [List.foldl_cons, ih _ hcs, Nat.ofDigitChars_cons, hvalue, Nat.mul_comm]
  rw [digitsValue, hfold _ _ fun c => isDigit_of_mem_digitsText]
  exact Nat.ofDigitChars_toDigits (by decide) (by decide)

theorem head?_digitsText {n : Nat} (h : n ≠ 0) : (Decimal.digitsText n).head? ≠ some '0' := by
  induction n using Nat.strongRecOn with
  | ind n ih =>
      rw [Decimal.digitsText, Nat.toDigits_eq_if (by decide)]
      split
      next hsmall =>
        have hdigit : ∀ d < 10, d ≠ 0 → [Nat.digitChar d].head? ≠ some '0' := by decide
        exact hdigit n hsmall h
      next hlarge =>
        have hfront : ((Nat.toDigits 10 (n / 10)).head?).isSome = true := by
          rw [List.isSome_head?]
          simp
        rw [List.head?_append, Option.or_of_isSome hfront]
        exact ih (n / 10) (by omega) (by omega)

theorem takes_wholeDigits (n : Nat) (h : Stops isDigit rest) :
    Takes wholeDigits (Decimal.digitsText n) (Decimal.digitsText n) rest := by
  refine (takes_takeWhile1 ⟨fun c => isDigit_of_mem_digitsText, h⟩ (digitsText_ne_nil n)).last ?_
  have hzero : ¬ ((decide ((Decimal.digitsText n).head? = some '0') &&
      decide ((Decimal.digitsText n).length > 1)) = true) := by
    by_cases hn : n = 0
    · subst hn
      decide
    · simp [head?_digitsText hn]
  rw [if_neg hzero]
  exact takes_pure _ rest

def signText (negative : Bool) : List Char := if negative then ['-'] else []

theorem exists_digit (n : Nat) (more : List Char) :
    ∃ c cs, Decimal.digitsText n ++ more = c :: cs ∧ isDigit c = true := by
  cases htext : Decimal.digitsText n with
  | nil => exact absurd htext (digitsText_ne_nil n)
  | cons c cs =>
      exact ⟨c, cs ++ more, rfl, isDigit_of_mem_digitsText (htext ▸ List.mem_cons_self)⟩

theorem takes_sign (plus negative : Bool)
    (h : ∃ c cs, rest = c :: cs ∧ isDigit c = true) :
    Takes (sign plus) (signText negative) negative rest := by
  obtain ⟨c, cs, rfl, hc⟩ := h
  cases negative with
  | true => rfl
  | false =>
      have hpeek : Takes peek [] (some c) ([] ++ c :: cs) := takes_peek (c :: cs)
      refine hpeek.ahead ?_
      split
      next heq => cases heq; cases hc
      next heq => cases heq; cases hc
      next => exact takes_pure false _

theorem intText_eq (n : Int) :
    Decimal.intText n = signText (decide (n < 0)) ++ Decimal.digitsText n.natAbs := by
  cases n with
  | ofNat n => rfl
  | negSucc n =>
      have hnegative : decide (Int.negSucc n < 0) = true := decide_eq_true (Int.negSucc_lt_zero n)
      rw [hnegative]
      rfl

theorem signed_natAbs (n : Int) :
    (if decide (n < 0) = true then -(n.natAbs : Int) else n.natAbs) = n := by
  split
  next h => have := of_decide_eq_true h; omega
  next h => have : ¬ n < 0 := fun hn => h (decide_eq_true hn); omega

/-- A number ends here: no digit, point or exponent follows. -/
def EndsNumber (rest : List Char) : Prop :=
  Stops (fun c => isDigit c || c == '.' || c == 'e' || c == 'E') rest

theorem EndsNumber.stops_isDigit (h : EndsNumber rest) : Stops isDigit rest := by
  cases rest with
  | nil => exact stops_nil
  | cons c cs =>
      simp only [EndsNumber, stops_cons, Bool.or_eq_false_iff] at h
      exact stops_cons.2 h.1.1.1

theorem EndsNumber.refuses_fraction (h : EndsNumber rest) : Refuses fraction rest := by
  apply (refuses_char _).bind
  cases rest with
  | nil => exact stops_nil
  | cons c cs =>
      simp only [EndsNumber, stops_cons, Bool.or_eq_false_iff] at h
      exact stops_cons.2 h.1.1.2

theorem EndsNumber.refuses_exponent (h : EndsNumber rest) : Refuses exponent rest := by
  apply (refuses_oneOf _).bind
  cases rest with
  | nil => exact stops_nil
  | cons c cs =>
      simp only [EndsNumber, stops_cons, Bool.or_eq_false_iff] at h
      exact stops_cons.2 (Bool.or_eq_false_iff.2 ⟨h.1.2, h.2⟩)

theorem takes_number_int (n : Int) (h : EndsNumber rest) :
    Takes number (Decimal.intText n) (.int n) rest := by
  rw [intText_eq]
  refine (takes_sign false _ (exists_digit _ rest)).bind ?_
  refine (takes_wholeDigits n.natAbs h.stops_isDigit).last ?_
  refine h.refuses_fraction.maybe.ahead ?_
  refine h.refuses_exponent.maybe.ahead ?_
  have hzero : ¬ ((decide (n < 0) && decide (n.natAbs = 0)) = true) := by
    simp only [Bool.and_eq_true, decide_eq_true_eq]
    omega
  simp only [Option.getD_none, List.append_nil, digitsValue_digitsText]
  rw [if_neg hzero, signed_natAbs]
  exact takes_pure _ rest

theorem takes_exponent (n : Int) (h : Stops isDigit rest) :
    Takes exponent ('e' :: Decimal.intText n) n rest := by
  rw [intText_eq]
  have hletter : ('e' == 'e' || 'e' == 'E') = true := rfl
  refine (takes_oneOf (fun c => c == 'e' || c == 'E') hletter _).bind ?_
  refine (takes_sign true _ (exists_digit _ rest)).bind ?_
  refine (takes_takeWhile1 ⟨fun c => isDigit_of_mem_digitsText, h⟩ (digitsText_ne_nil _)).last ?_
  rw [digitsValue_digitsText]
  simp only [signed_natAbs]
  exact takes_pure n rest

theorem decimalText_eq (d : Decimal) :
    decimalText d = signText d.negative ++
      (Decimal.digitsText d.digits ++ 'e' :: Decimal.intText d.exponent) :=
  List.append_assoc ..

theorem takes_number_decimal (d : Decimal) (h : Stops isDigit rest) :
    Takes number (decimalText d) (.decimal d) rest := by
  have hletter : Stops isDigit ('e' :: (Decimal.intText d.exponent ++ rest)) := by simp [isDigit]
  have hfraction : Refuses fraction ('e' :: (Decimal.intText d.exponent ++ rest)) :=
    (refuses_char (by simp)).bind _
  rw [decimalText_eq]
  refine (takes_sign false _ ?_).bind ?_
  · rw [List.append_assoc]
    exact exists_digit _ _
  refine (takes_wholeDigits d.digits hletter).bind ?_
  refine hfraction.maybe.ahead ?_
  refine (takes_exponent d.exponent h).maybe.last ?_
  simp only [Option.getD_none, List.append_nil, digitsValue_digitsText, Option.getD_some,
    List.length_nil]
  have hexponent : d.exponent - ((0 : Nat) : Int) = d.exponent := Int.sub_zero _
  rw [hexponent]
  exact takes_pure (Value.decimal d) rest

end RouteHighlight.Json
