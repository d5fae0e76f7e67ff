import RouteHighlight.Proofs.Lexer.Reading

/-!
# Scans

A scan of a stream does what `Reads` says, whatever the options: the stream behind it is
`Stream.after` (`Reads.scan_eq_after`).  The patterns and the rule tables are not needed beyond
this module.
-/

namespace RouteHighlight

open Text (IsRun Stops isBlank isWord byteLength)
open Piece (plain layOut)
open Rule (OpensRoute)

/-- The mode after a match of `text` whose rule leads to `target`. -/
def LexerOptions.landing (options : LexerOptions) (text : List Char) (target : Mode) : Mode :=
  if options.resetOnNewline && text.contains '\n' then .root else target

theorem LexerOptions.landing_root (options : LexerOptions) (text : List Char) :
    options.landing text .root = .root := by
  simp [landing]

theorem LexerOptions.landing_of_inLine (options : LexerOptions) {text : List Char} {target : Mode}
    (h : '\n' ∉ text) : options.landing text target = target := by
  simp [landing, h]

theorem LexerOptions.landing_of_newline {options : LexerOptions} {text : List Char} {target : Mode}
    (hreset : options.resetOnNewline = true) (h : '\n' ∈ text) :
    options.landing text target = .root := by
  simp [landing, hreset, h]

def Stream.after (s : Stream) (pieces : List Piece) (target : Mode) (rest : List Char) : Stream :=
  ⟨s.options, rest, s.position + byteLength (plain pieces),
    s.options.landing (plain pieces) target, s.pending ++ layOut s.position pieces⟩

/-! ## The first rule that matches -/

namespace Rule

theorem match?_of_pattern {rule : Rule} {text : List Char} {m : Match}
    (h : rule.pattern.match? text = some m) (hsize : 0 < m.size) :
    rule.match? text = some m := by
  simp [match?, h, hsize]

theorem match?_eq_none_of_pattern {rule : Rule} {text : List Char}
    (h : rule.pattern.match? text = none) : rule.match? text = none := by
  simp [match?, h]

variable {table rules : List Rule} {rule : Rule} {text : List Char} {m : Match}

theorem first?_of_some (htable : table = rule :: rules)
    (h : rule.pattern.match? text = some m) (hsize : 0 < m.size) :
    first? table text = some (rule, m) := by
  simp [first?, htable, match?_of_pattern h hsize]

theorem first?_of_none (htable : table = rule :: rules)
    (h : rule.pattern.match? text = none) : first? table text = first? rules text := by
  simp [first?, htable, match?_eq_none_of_pattern h]

end Rule

/-! ## The tokens of a match -/

theorem Action.tokens_pair (a b : TokenKind) (base size : Nat) {xs ys rest : List Char}
    (hxs : xs ≠ []) (hys : ys ≠ []) :
    (Action.byGroups [a, b]).tokens base (xs ++ (ys ++ rest))
        ⟨size, [⟨0, xs.length⟩, ⟨xs.length, xs.length + ys.length⟩]⟩ =
      layOut base [⟨a, xs⟩, ⟨b, ys⟩] := by
  have hfirst := Token.ofExtent_eq a base [] xs (ys ++ rest)
  have hsecond := Token.ofExtent_eq b base xs ys rest
  simp only [List.nil_append, List.length_nil, Nat.zero_add, Text.byteLength_nil,
    Nat.add_zero] at hfirst
  simp [Action.tokens, hfirst, hsecond, Piece.layOut_cons, List.length_pos_iff, hxs, hys]

theorem Action.tokens_triple (a b c : TokenKind) (base size : Nat) (x z : Char)
    {ys rest : List Char} (hys : ys ≠ []) :
    (Action.byGroups [a, b, c]).tokens base (x :: (ys ++ z :: rest))
        ⟨size, [⟨0, 1⟩, ⟨1, 1 + ys.length⟩, ⟨ys.length + 1, ys.length + 2⟩]⟩ =
      layOut base [⟨a, [x]⟩, ⟨b, ys⟩, ⟨c, [z]⟩] := by
  have hfirst := Token.ofExtent_eq a base [] [x] (ys ++ z :: rest)
  have hsecond := Token.ofExtent_eq b base [x] ys (z :: rest)
  have hthird := Token.ofExtent_eq c base (x :: ys) [z] rest
  simp only [List.nil_append, List.cons_append, List.length_nil, List.length_cons, Nat.zero_add,
    Text.byteLength_nil, Text.byteLength_cons, Nat.add_zero] at hfirst hsecond hthird
  simp [Action.tokens, hfirst, hsecond, hthird, Piece.layOut_cons, List.length_pos_iff, hys,
    Nat.add_assoc]

namespace Stream

variable {s : Stream} {rule : Rule} {m : Match} {pieces : List Piece} {target : Mode}
  {rest : List Char}

theorem scan_eq_accept (hne : s.rest ≠ []) (h : Rule.first? (Rule.table s.mode) s.rest =
    some (rule, m)) : s.scan = s.accept rule m := by
  unfold scan
  split
  · contradiction
  · rw [h]

theorem accept_eq_after (hrest : s.rest = plain pieces ++ rest)
    (hsize : m.size = (plain pieces).length)
    (htokens : rule.action.tokens s.position s.rest m = layOut s.position pieces)
    (htarget : rule.transition.target s.mode = target) :
    (s.accept rule m).1 = s.after pieces target rest := by
  have htake : s.rest.take m.size = plain pieces := by rw [hrest, hsize, List.take_left]
  have hdrop : s.rest.drop m.size = rest := by rw [hrest, hsize, List.drop_left]
  simp only [accept, advance, modeAfter, htokens, htake, hdrop, htarget, after,
    LexerOptions.landing]

theorem scan_single {kind : TokenKind} {w : List Char} (hrest : s.rest = w ++ rest) (hne : w ≠ [])
    (h : Rule.first? (Rule.table s.mode) s.rest = some (rule, ⟨w.length, []⟩))
    (haction : rule.action = .single kind) (htarget : rule.transition.target s.mode = target) :
    s.scan.1 = s.after [⟨kind, w⟩] target rest := by
  have htokens : rule.action.tokens s.position s.rest ⟨w.length, []⟩ =
      layOut s.position [⟨kind, w⟩] := by
    have htoken := Token.ofExtent_eq kind s.position [] w rest
    simp only [List.nil_append, List.length_nil, Nat.zero_add, Text.byteLength_nil,
      Nat.add_zero] at htoken
    simp only [haction, Action.tokens, Match.whole, hrest, htoken, Piece.layOut_cons,
      Piece.layOut_nil]
  rw [scan_eq_accept (by simp [hrest, hne]) h, accept_eq_after (by simpa using hrest) (by simp)
    htokens htarget]

theorem scan_groups (hrest : s.rest = plain pieces ++ rest) (hne : plain pieces ≠ [])
    (h : Rule.first? (Rule.table s.mode) s.rest = some (rule, m))
    (hsize : m.size = (plain pieces).length)
    (htokens : rule.action.tokens s.position s.rest m = layOut s.position pieces)
    (htarget : rule.transition.target s.mode = target) : s.scan.1 = s.after pieces target rest := by
  rw [scan_eq_accept (by simp [hrest, hne]) h, accept_eq_after hrest hsize htokens htarget]

theorem scan_eq_skip {c : Char} (hrest : s.rest = c :: rest)
    (h : Rule.first? (Rule.table s.mode) s.rest = none) : s.scan = s.skip c := by
  unfold scan
  split
  next hnil => simp [hrest] at hnil
  next d ds hcons =>
    obtain ⟨rfl, -⟩ := List.cons.inj (hrest.symm.trans hcons)
    rw [h]

theorem ofExtent_head (kind : TokenKind) (base : Nat) (c : Char) (rest : List Char) :
    Token.ofExtent kind base (c :: rest) ⟨0, 1⟩ = Piece.token ⟨kind, [c]⟩ base :=
  Token.ofExtent_eq kind base [] [c] rest

theorem scan_newline (hrest : s.rest = '\n' :: rest)
    (h : Rule.first? (Rule.table s.mode) s.rest = none) :
    s.scan.1 = s.after [⟨.whitespace, ['\n']⟩] .root rest := by
  rw [scan_eq_skip hrest h, skip, if_pos rfl]
  simp [advance, after, ofExtent_head, Piece.layOut_cons, hrest, LexerOptions.landing]

theorem scan_unmatched {c : Char} (hrest : s.rest = c :: rest)
    (h : Rule.first? (Rule.table s.mode) s.rest = none) (hc : c ≠ '\n') :
    s.scan.1 = s.after [⟨.text, [c]⟩] s.mode rest := by
  rw [scan_eq_skip hrest h, skip, if_neg hc]
  simp [advance, after, ofExtent_head, Piece.layOut_cons, hrest, LexerOptions.landing, Ne.symm hc]

end Stream

namespace Rule

/-! ## Where a table comes to its last rule, and where none matches -/

theorem first?_root_of_ne {c : Char} {r : List Char} (hblank : isBlank c = false)
    (hhash : c ≠ '#') : first? rootTable (c :: r) = first? (rootTable.drop 2) (c :: r) :=
  calc first? rootTable (c :: r)
    _ = first? (rootTable.drop 1) (c :: r) :=
      first?_of_none rfl (Pattern.match?_many_eq_none .blank (Text.stops_cons.2 hblank))
    _ = first? (rootTable.drop 2) (c :: r) := first?_of_none rfl (Pattern.match?_line_eq_none hhash)

theorem first?_root_eq_none {c : Char} {r : List Char} (hblank : isBlank c = false)
    (hhash : c ≠ '#') (hopens : ¬ OpensRoute (c :: r)) : first? rootTable (c :: r) = none :=
  calc first? rootTable (c :: r)
    _ = first? (rootTable.drop 2) (c :: r) := first?_root_of_ne hblank hhash
    _ = first? [] (c :: r) := first?_of_none rfl (match?_keyword_eq_none hopens)
    _ = none := rfl

theorem first?_root_keyword {k : String} (hk : k ∈ routeKeywords) (tail : List Char) :
    first? rootTable (k.toList ++ tail) = first? (rootTable.drop 2) (k.toList ++ tail) := by
  obtain ⟨c, cs, hcons⟩ := List.exists_cons_of_ne_nil (keyword_ne_nil hk)
  obtain ⟨hblank, hhash, -⟩ := keyword_chars hk c (by simp [hcons])
  rw [hcons, List.cons_append]
  exact first?_root_of_ne hblank hhash

theorem first?_object_of_stops {text : List Char} (hstops : Stops isWord text) :
    first? objectTable text = first? (objectTable.drop 2) text :=
  have hrun : IsRun isWord [] text := ⟨by simp, hstops⟩
  calc first? objectTable text
    _ = first? (objectTable.drop 1) text :=
      first?_of_none rfl (Pattern.match?_closed_eq_none .word hrun Text.isWord_dot (by simp))
    _ = first? (objectTable.drop 2) text :=
      first?_of_none rfl (Pattern.match?_many_eq_none .word hstops)

theorem first?_url_eq_none {r : List Char} (h : Stops isWord r) :
    first? urlTable (':' :: r) = none :=
  calc first? urlTable (':' :: r)
    _ = first? (urlTable.drop 1) (':' :: r) :=
      first?_of_none rfl (Pattern.match?_many_eq_none .blank (Text.stops_cons.2 rfl))
    _ = first? (urlTable.drop 2) (':' :: r) :=
      first?_of_none rfl (Pattern.match?_one (.otherThan ':') ':' r)
    _ = first? [] (':' :: r) := first?_of_none rfl (Pattern.match?_marked_eq_none .word fun _ => h)
    _ = none := rfl

theorem first?_object_eq_none {c : Char} {r : List Char} (hword : isWord c = false)
    (hopens : ¬ OpensList (c :: r)) : first? objectTable (c :: r) = none :=
  calc first? objectTable (c :: r)
    _ = first? (objectTable.drop 2) (c :: r) := first?_object_of_stops (Text.stops_cons.2 hword)
    _ = first? [] (c :: r) := first?_of_none rfl (Pattern.match?_bracketed_eq_none hopens)
    _ = none := rfl

end Rule

/-- A scan is what `Reads` says, whatever the options of the pass. -/
theorem Reads.scan_eq_after {s : Stream} {pieces : List Piece} {target : Mode} {rest : List Char}
    (h : Reads s.mode s.rest pieces target rest) : s.scan.1 = s.after pieces target rest := by
  obtain ⟨options, text, position, mode, pending⟩ := s
  replace h : Reads mode text pieces target rest := h
  have hsize {w : List Char} (ne : w ≠ []) : 0 < w.length := List.length_pos_iff.2 ne
  cases h with
  | blank run ne =>
      have hmatch := Pattern.match?_many .blank run ne
      exact Stream.scan_single rfl ne (Rule.first?_of_some rfl hmatch (hsize ne)) rfl rfl
  | @comment body _ run =>
      refine Stream.scan_single rfl (by simp) ((Rule.first?_of_none rfl ?_).trans
        (Rule.first?_of_some rfl (Pattern.match?_line '#' run) (by simp))) rfl rfl
      exact Pattern.match?_many_eq_none .blank (Text.stops_cons.2 Text.isBlank_hash)
  | @keyword k w _ mem run ne =>
      have hk := Rule.keyword_ne_nil mem
      have hmatch := Rule.match?_keyword mem run ne
      exact Stream.scan_groups (by simp) (by simp [hk])
        ((Rule.first?_root_keyword mem _).trans
          (Rule.first?_of_some rfl hmatch (Nat.add_pos_right _ (hsize ne))))
        (by simp) (Action.tokens_pair .keyword .whitespace position _ hk ne) rfl
  | @rootOther c _ blank hash opens =>
      have hc : c ≠ '\n' := by
        rintro rfl
        simp at blank
      exact Stream.scan_unmatched rfl (Rule.first?_root_eq_none blank hash opens) hc
  | urlEnd run ne =>
      have hmatch := Pattern.match?_many .blank run ne
      exact Stream.scan_single rfl ne (Rule.first?_of_some rfl hmatch (hsize ne)) rfl rfl
  | @pathChar c _ blank colon =>
      have hmatch : (Pattern.one (.otherThan ':')).match? (c :: rest) = some ⟨1, []⟩ := by
        simp [Pattern.match?_one, CharClass.test, colon]
      refine Stream.scan_single rfl (by simp) ((Rule.first?_of_none rfl ?_).trans
        (Rule.first?_of_some rfl hmatch (by simp))) rfl rfl
      exact Pattern.match?_many_eq_none .blank (Text.stops_cons.2 blank)
  | pathParam run ne =>
      refine Stream.scan_single rfl (by simp) ((Rule.first?_of_none rfl ?_).trans
        ((Rule.first?_of_none rfl ?_).trans
          (Rule.first?_of_some rfl (Pattern.match?_marked .word ':' run ne) (by simp)))) rfl rfl
      · exact Pattern.match?_many_eq_none .blank (Text.stops_cons.2 Text.isBlank_colon)
      · exact Pattern.match?_one (.otherThan ':') ':' _
  | colon stops => exact Stream.scan_unmatched rfl (Rule.first?_url_eq_none stops) (by decide)
  | segment word ne =>
      have hmatch := Pattern.match?_closed .word word ne Text.isWord_dot (r := rest)
      exact Stream.scan_single (by simp) (by simp)
        (Rule.first?_of_some rfl (by simpa using hmatch) (by simp)) rfl rfl
  | method run ne dot =>
      refine Stream.scan_single rfl ne ((Rule.first?_of_none rfl ?_).trans
        (Rule.first?_of_some rfl (Pattern.match?_many .word run ne) (hsize ne))) rfl rfl
      exact Pattern.match?_closed_eq_none .word run Text.isWord_dot fun _ => dot
  | parameters ne close =>
      have hmatch := Pattern.match?_bracketed (o := '(') (r := rest) ne close
      exact Stream.scan_groups (by simp) (by simp)
        ((Rule.first?_object_of_stops (Text.stops_cons.2 Text.isWord_open)).trans
          (Rule.first?_of_some rfl hmatch (by simp)))
        (by simp) (Action.tokens_triple .text .variable .text position _ '(' ')' ne) rfl
  | newline =>
      have hopens : ¬ OpensList ('\n' :: rest) := by simp [OpensList]
      exact Stream.scan_newline rfl (Rule.first?_object_eq_none Text.isWord_newline hopens)
  | objectOther word newline opens =>
      exact Stream.scan_unmatched rfl (Rule.first?_object_eq_none word opens) newline

end RouteHighlight
