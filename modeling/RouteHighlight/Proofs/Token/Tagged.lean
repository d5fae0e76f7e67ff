import Mathlib.Data.List.Forall2
import RouteHighlight.Proofs.Text.Runs
import RouteHighlight.Token.Tagged

/-!
# Tagged lines keep tokens apart

No text can break its line or pass for the end of it: the tag in front says where the text begins,
and how long the tag behind it is.  So the lines give back the kinds, and the texts up to what the
escapes make equal.
-/

namespace RouteHighlight.Token

def lineText (token : Token) : List Char :=
  '<' :: (token.kind.tag.toList ++ '>' :: (token.escapedText ++
    ('<' :: '/' :: (token.kind.tag.toList ++ ['>']))))

theorem taggedLine_eq (token : Token) : token.taggedLine = token.lineText ++ ['\n'] := by
  simp [taggedLine, lineText]

/-! ## No line break inside a line -/

theorem newline_notMem_escapeBreak (c : Char) : '\n' ∉ escapeBreak c := by
  unfold escapeBreak
  split
  next => decide
  next => decide
  next => decide
  next hnewline _ _ => exact fun h => hnewline (List.mem_singleton.1 h).symm

theorem newline_notMem_escapedText (token : Token) : '\n' ∉ token.escapedText := by
  intro h
  obtain ⟨c, -, hc⟩ := List.mem_flatMap.1 h
  exact newline_notMem_escapeBreak c hc

theorem newline_notMem_tag (kind : TokenKind) : '\n' ∉ kind.tag.toList := by
  cases kind <;> decide

theorem newline_notMem_lineText (token : Token) : '\n' ∉ token.lineText := by
  simp [lineText, newline_notMem_escapedText, newline_notMem_tag]

theorem count_newline_tagged (tokens : List Token) :
    (tagged tokens).toList.count '\n' = tokens.length := by
  rw [tagged, String.toList_ofList]
  induction tokens with
  | nil => rfl
  | cons token tokens ih =>
      have hline : token.taggedLine.count '\n' = 1 := by
        rw [taggedLine_eq, List.count_append,
          List.count_eq_zero.2 (newline_notMem_lineText token)]
        rfl
      rw [List.flatMap_cons, List.count_append, hline, ih, List.length_cons, Nat.add_comm]

/-! ## The escapes, one kind after the other -/

/-- The text with `escape` in the place of every `c`. -/
def replaced (c : Char) (escape : String) (text : List Char) : List Char :=
  escape.toList.intercalate (text.splitOn c)

/-- A text with its newlines written as escapes, then its tabs, then its carriage returns. -/
def writtenOut (text : List Char) : List Char :=
  replaced '\x0d' "\\r" (replaced '\t' "\\t" (replaced '\n' "\\n" text))

theorem replaced_cons (c d : Char) (escape : String) (text : List Char) :
    replaced c escape (d :: text) =
      (if d = c then escape.toList else [d]) ++ replaced c escape text := by
  have hne : text.splitOn c ≠ [] := List.splitOn_ne_nil c text
  rw [replaced, replaced, List.splitOn_cons_eq_if_modifyHead]
  by_cases h : d = c
  · simp [h, List.intercalate_cons_of_ne_nil hne]
  · obtain ⟨part, parts, hparts⟩ := List.exists_cons_of_ne_nil hne
    simp only [beq_iff_eq, if_neg h, hparts, List.modifyHead_cons]
    cases parts <;> simp [List.intercalate_cons_cons]

theorem flatMap_escapeBreak (text : List Char) : text.flatMap escapeBreak = writtenOut text := by
  induction text with
  | nil => rfl
  | cons c text ih =>
      rw [List.flatMap_cons, ih, writtenOut, writtenOut]
      by_cases hnewline : c = '\n'
      · simp [hnewline, escapeBreak, replaced_cons]
      · by_cases htab : c = '\t'
        · simp [htab, escapeBreak, replaced_cons]
        · by_cases hreturn : c = '\x0d'
          · simp [hreturn, escapeBreak, replaced_cons]
          · simp [hnewline, htab, hreturn, escapeBreak, replaced_cons]

/-! ## What a line tells -/

theorem close_notMem_tag (kind : TokenKind) : '>' ∉ kind.tag.toList := by
  cases kind <;> decide

private theorem isRun_of_notMem {c : Char} {front : List Char} (h : c ∉ front)
    (back : List Char) : Text.IsRun (· != c) front (c :: back) where
  all d hd := bne_iff_ne.2 fun heq => h (heq ▸ hd)
  stops := by simp

theorem lineText_eq_iff (token other : Token) :
    token.lineText = other.lineText ↔
      token.kind = other.kind ∧ token.escapedText = other.escapedText := by
  constructor
  · intro h
    -- a tag ends where the first bracket closes, so both lines have the same tag
    obtain ⟨htag, htext⟩ := (isRun_of_notMem (close_notMem_tag token.kind) _).unique
      (isRun_of_notMem (close_notMem_tag other.kind) _) (List.cons.inj h).2
    have hkind : token.kind = other.kind :=
      TokenKind.tag_injective (String.toList_injective htag)
    rw [hkind] at htext
    exact ⟨hkind, List.append_cancel_right (List.cons.inj htext).2⟩
  · rintro ⟨hkind, htext⟩
    rw [lineText, lineText, hkind, htext]

theorem flatMap_taggedLine_eq_iff (tokens others : List Token) :
    tokens.flatMap taggedLine = others.flatMap taggedLine ↔
      List.Forall₂ (fun token other =>
        token.kind = other.kind ∧ token.escapedText = other.escapedText) tokens others := by
  induction tokens generalizing others with
  | nil =>
      cases others with
      | nil => simp
      | cons other others => simp [taggedLine]
  | cons token tokens ih =>
      cases others with
      | nil => simp [taggedLine]
      | cons other others =>
          rw [List.forall₂_cons, ← lineText_eq_iff, ← ih, List.flatMap_cons, List.flatMap_cons,
            taggedLine_eq, taggedLine_eq, List.append_assoc, List.append_assoc]
          constructor
          · intro h
            -- the first line ends at the first line break
            obtain ⟨hline, hrest⟩ := (isRun_of_notMem (newline_notMem_lineText token) _).unique
              (isRun_of_notMem (newline_notMem_lineText other) _) h
            exact ⟨hline, (List.cons.inj hrest).2⟩
          · rintro ⟨hline, hrest⟩
            rw [hline, hrest]

/-- Each token has a line of its own, and equal lines are those of tokens of equal kinds whose texts
the escapes make equal. -/
theorem tagged_eq_iff (tokens : List Token) :
    (tagged tokens).toList = tokens.flatMap (fun token => token.lineText ++ ['\n']) ∧
      (∀ token ∈ tokens, '\n' ∉ token.lineText) ∧
      (tagged tokens).toList.count '\n' = tokens.length ∧
      ∀ others, tagged tokens = tagged others ↔
        List.Forall₂ (fun token other => token.kind = other.kind ∧
          writtenOut token.text.toList = writtenOut other.text.toList) tokens others := by
  refine ⟨?_, fun token _ => newline_notMem_lineText token, count_newline_tagged tokens, ?_⟩
  · rw [tagged, String.toList_ofList]
    simp only [← taggedLine_eq]
  · intro others
    simp only [← flatMap_escapeBreak]
    refine Iff.trans ?_ (flatMap_taggedLine_eq_iff tokens others)
    exact ⟨fun h => by simpa [tagged] using congrArg String.toList h,
      fun h => congrArg String.ofList h⟩

/-- A line break and its escape written out cannot be told apart. -/
example : tagged [⟨.text, "\n", ⟨0, 1⟩⟩] = tagged [⟨.text, "\\n", ⟨0, 2⟩⟩] := by decide

end RouteHighlight.Token
