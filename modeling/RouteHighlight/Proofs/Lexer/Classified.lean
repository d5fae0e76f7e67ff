import RouteHighlight.Proofs.Lexer.Grammar
import RouteHighlight.Proofs.Lexer.Run

/-!
# Well-formed files are classified by their grammar

A line is read from root mode, whatever the line before it was and however its newline was taken.
Blank lines are cut into tokens in different places behind a route and behind a comment, so what
is carried from line to line is the kind of each character (`ReadsAs`), and the white space that
the lines before have left over is part of the statement (`AtLine`).
-/

namespace RouteHighlight

open Text (IsRun Stops isBlank isWord)
open Piece (plain labels layOut)
open Grammar (Word Line Route Arguments PathPart Path newline)

variable {options : LexerOptions} {mode target : Mode} {text rest tail : List Char}
  {ps qs : List Piece}

/-- The text is read to its end, and each character gets the kind that the pieces name. -/
def ReadsAs (options : LexerOptions) (mode : Mode) (text : List Char) (pieces : List Piece) :
    Prop :=
  ∃ chunks final, Run options mode text chunks final [] ∧ labels chunks.flatten = labels pieces

namespace ReadsAs

theorem nil : ReadsAs options mode [] [] := ⟨[], mode, .done, rfl⟩

theorem congr (h : ReadsAs options mode text ps) (hlabels : labels ps = labels qs) :
    ReadsAs options mode text qs := by
  obtain ⟨chunks, final, hrun, hkinds⟩ := h
  exact ⟨chunks, final, hrun, hkinds.trans hlabels⟩

theorem read (reads : Reads mode text ps target rest)
    (h : ReadsAs options (options.landing (plain ps) target) rest qs) :
    ReadsAs options mode text (ps ++ qs) := by
  obtain ⟨chunks, final, hrun, hkinds⟩ := h
  exact ⟨ps :: chunks, final, .read reads hrun, by simp [hkinds]⟩

theorem readInLine (reads : Reads mode text ps target rest) (hline : '\n' ∉ plain ps)
    (h : ReadsAs options target rest qs) : ReadsAs options mode text (ps ++ qs) := by
  apply read reads
  rwa [options.landing_of_inLine hline]

end ReadsAs

private theorem ne_newline_of_not_isBlank {c : Char} (h : isBlank c = false) : '\n' ≠ c := by
  rintro rfl
  contradiction

/-! ## Within a route -/

private theorem stops_behind_parameter {name : Word} {parts : List PathPart}
    (hchain : (PathPart.parameter name :: parts).IsChain PathPart.Precedes)
    (hrest : ∀ c ∈ rest.head?, isBlank c = true) :
    Stops isWord (plain (parts.map PathPart.piece) ++ rest) := by
  cases parts with
  | nil => exact fun c hc => Text.isWord_of_isBlank (hrest c hc)
  | cons part parts =>
      rw [List.isChain_cons_cons] at hchain
      cases part with
      | literal c blank colon => simpa [PathPart.piece, PathPart.Precedes] using hchain.1
      | parameter name => simp [PathPart.piece]

theorem readsAs_path {parts : List PathPart} (hchain : parts.IsChain PathPart.Precedes)
    (hrest : ∀ c ∈ rest.head?, isBlank c = true) (h : ReadsAs options .url rest qs) :
    ReadsAs options .url (plain (parts.map PathPart.piece) ++ rest)
      (parts.map PathPart.piece ++ qs) := by
  induction parts with
  | nil => exact h
  | cons part parts ih =>
      have htail := ih hchain.tail
      cases part with
      | literal c blank colon =>
          have hline : '\n' ∉ plain [⟨.stringLiteral, [c]⟩] := by
            simpa using ne_newline_of_not_isBlank blank
          simpa [PathPart.piece] using .readInLine (.pathChar blank colon) hline htail
      | parameter name =>
          have hstops := stops_behind_parameter hchain hrest
          have hline : '\n' ∉ plain [⟨.variable, ':' :: name.chars⟩] := by
            simpa using Text.newline_notMem_of_isWord name.word
          simpa [PathPart.piece] using
            .readInLine (.pathParam ⟨name.word, hstops⟩ name.ne_nil) hline htail

theorem readsAs_segments (segments : List Word) (h : ReadsAs options .object rest qs) :
    ReadsAs options .object (plain (segments.map Grammar.segmentPiece) ++ rest)
      (segments.map Grammar.segmentPiece ++ qs) := by
  induction segments with
  | nil => exact h
  | cons name segments ih =>
      have hline : '\n' ∉ plain [⟨.className, name.chars ++ ['.']⟩] := by
        simpa using Text.newline_notMem_of_isWord name.word
      simpa [Grammar.segmentPiece] using .readInLine (.segment name.word name.ne_nil) hline ih

private theorem not_opensList_empty : ¬ OpensList ('(' :: ')' :: rest) := by
  rintro ⟨p, more, hp, hclose, heq⟩
  obtain ⟨c, cs, rfl⟩ := List.exists_cons_of_ne_nil hp
  simp at heq hclose
  exact hclose.1 heq.1

private theorem not_opensList_close : ¬ OpensList (')' :: rest) := by
  rintro ⟨p, more, -, -, heq⟩
  simp at heq

theorem readsAs_arguments (arguments : Arguments) (hroot : ReadsAs options .root rest qs)
    (hobject : ReadsAs options .object rest qs) :
    ReadsAs options .object (plain arguments.pieces ++ rest) (arguments.pieces ++ qs) := by
  cases arguments with
  | omitted => exact hobject
  | empty =>
      have hclose : ReadsAs options .object (')' :: rest) ([⟨.text, [')']⟩] ++ qs) :=
        .readInLine (.objectOther (by simp) (by simp) not_opensList_close) (by simp) hobject
      have hopen := ReadsAs.readInLine
        (.objectOther (by simp) (by simp) not_opensList_empty) (by simp) hclose
      simpa [Arguments.pieces] using hopen
  | list p ne close =>
      have hlanding : ReadsAs options (options.landing (plain
          [⟨.text, ['(']⟩, ⟨.variable, p⟩, ⟨.text, [')']⟩]) .object) rest qs := by
        unfold LexerOptions.landing
        split
        · exact hroot
        · exact hobject
      simpa [Arguments.pieces] using .read (.parameters ne close) hlanding

private theorem stops_of_head {test : Char → Bool} {w : List Char} (hne : w ≠ [])
    (hw : ∀ c ∈ w, test c = false) : Stops test (w ++ rest) := by
  rw [Text.stops_append hne]
  exact fun c hc => hw c (List.mem_of_mem_head? hc)

private theorem stops_handler (route : Route) : Stops isBlank (plain route.handler ++ rest) := by
  rw [Route.handler]
  cases route.segments with
  | nil =>
      simp only [List.map_nil, List.nil_append, Piece.plain_cons, List.append_assoc]
      exact stops_of_head route.method.ne_nil
        fun c hc => Text.isBlank_of_isWord (route.method.word c hc)
  | cons name segments =>
      simp only [List.map_cons, List.cons_append, Piece.plain_cons, List.append_assoc,
        Grammar.segmentPiece]
      exact stops_of_head name.ne_nil fun c hc => Text.isBlank_of_isWord (name.word c hc)

private theorem stops_path (path : Path) : Stops isBlank (plain path.pieces ++ rest) := by
  obtain ⟨part, parts, hparts⟩ := List.exists_cons_of_ne_nil path.ne_nil
  rw [Path.pieces, hparts]
  cases part with
  | literal c blank colon => simpa [PathPart.piece] using blank
  | parameter name => simp [PathPart.piece]

/-! ## Line by line -/

/-- The text is read from root mode, also when the lines before leave white space in front. -/
def AtLine (options : LexerOptions) (text : List Char) (pieces : List Piece) : Prop :=
  ∀ ws, (∀ c ∈ ws, isBlank c = true) →
    ReadsAs options .root (ws ++ text) (⟨.whitespace, ws⟩ :: pieces)

/-- The text is a file from the end of a line on: nothing, or a newline and what is behind it.
It is read in both modes that the line can end in. -/
structure BehindLine (options : LexerOptions) (text : List Char) (pieces : List Piece) : Prop where
  head : ∀ c ∈ text.head?, c = '\n'
  root : AtLine options text pieces
  object : ReadsAs options .object text pieces

theorem AtLine.readsAs (h : AtLine options text ps) : ReadsAs options .root text ps :=
  (h [] (by simp)).congr (by simp)

theorem AtLine.of_stops (hstops : Stops isBlank text) (h : ReadsAs options .root text ps) :
    AtLine options text ps := by
  intro ws hws
  by_cases hne : ws = []
  · subst hne
    exact h.congr (by simp)
  · apply ReadsAs.read (.blank ⟨hws, hstops⟩ hne)
    rwa [options.landing_root]

theorem BehindLine.nil : BehindLine options [] [] :=
  ⟨by simp, .of_stops (by simp) .nil, .nil⟩

theorem AtLine.newline (h : AtLine options text ps) :
    BehindLine options ('\n' :: text) (newline :: ps) := by
  refine ⟨by simp, fun ws hws => ?_, ?_⟩
  · have hblank : ∀ c ∈ ws ++ ['\n'], isBlank c = true := by
      intro c hc
      rcases List.mem_append.1 hc with hc | hc
      · exact hws c hc
      · rw [List.mem_singleton.1 hc]
        decide
    have hread := h (ws ++ ['\n']) hblank
    rw [List.append_assoc] at hread
    exact hread.congr (by simp [Grammar.newline])
  · apply ReadsAs.read .newline
    rw [options.landing_root]
    exact h.readsAs

private theorem readsAs_handler (route : Route) (h : BehindLine options tail qs) :
    ReadsAs options .object (plain route.handler ++ tail) (route.handler ++ qs) := by
  have hstops : Stops isWord (plain route.arguments.pieces ++ tail) ∧
      (plain route.arguments.pieces ++ tail).head? ≠ some '.' := by
    cases route.arguments with
    | omitted =>
        cases tail with
        | nil => simp [Arguments.pieces]
        | cons c tail => simp [Arguments.pieces, h.head c rfl]
    | empty => simp [Arguments.pieces]
    | list p ne close => simp [Arguments.pieces]
  have harguments := readsAs_arguments route.arguments h.root.readsAs h.object
  have hmethod := ReadsAs.readInLine
    (.method ⟨route.method.word, hstops.1⟩ route.method.ne_nil hstops.2)
    (by simpa using Text.newline_notMem_of_isWord route.method.word) harguments
  have hhandler := readsAs_segments route.segments hmethod
  simpa [Route.handler] using hhandler

theorem readsAs_route (route : Route) (h : BehindLine options tail qs) :
    ReadsAs options .root (plain route.pieces ++ tail) (route.pieces ++ qs) := by
  have hurl := ReadsAs.readInLine
    (.urlEnd ⟨route.secondGap.blank, stops_handler route⟩ route.secondGap.ne_nil)
    (by simpa using route.secondGap.inLine) (readsAs_handler route h)
  have hgap : ∀ c ∈ (route.secondGap.chars ++ (plain route.handler ++ tail)).head?,
      isBlank c = true := by
    intro c hc
    rw [List.head?_append_of_ne_nil _ route.secondGap.ne_nil] at hc
    exact route.secondGap.blank c (List.mem_of_mem_head? hc)
  have hpath := readsAs_path route.path.chain hgap hurl
  have hkeyword : '\n' ∉ route.keyword.toList := fun hmem =>
    absurd (Rule.keyword_chars route.keyword_mem _ hmem).1 (by decide)
  have hroute := ReadsAs.readInLine
    (.keyword route.keyword_mem ⟨route.gap.blank, stops_path route.path⟩ route.gap.ne_nil)
    (by simpa using ⟨hkeyword, route.gap.inLine⟩) hpath
  simpa [Route.pieces, Path.pieces] using hroute

theorem atLine_line (line : Line) (h : BehindLine options tail qs) :
    AtLine options (line.text ++ tail) (line.pieces ++ qs) := by
  cases line with
  | blank text =>
      intro ws hws
      have hblank : ∀ c ∈ ws ++ text.chars, isBlank c = true := by
        intro c hc
        exact (List.mem_append.1 hc).elim (hws c) (text.blank c)
      have hread := h.root _ hblank
      rw [List.append_assoc] at hread
      have htext : (Line.blank text).text = text.chars := by simp [Line.text, Line.pieces]
      rw [htext]
      exact hread.congr (by simp [Line.pieces])
  | comment body inLine =>
      have hstops : Stops (fun c => c != '\n') tail := by
        intro c hc
        simp [h.head c hc]
      have hall : ∀ c ∈ body, (c != '\n') = true := by
        intro c hc
        have hne : c ≠ '\n' := by
          rintro rfl
          exact inLine hc
        simpa using hne
      have hread := ReadsAs.readInLine (.comment ⟨hall, hstops⟩) (by simpa using inLine)
        h.root.readsAs
      have hcomment : ReadsAs options .root ((Line.comment body inLine).text ++ tail)
          ((Line.comment body inLine).pieces ++ qs) := by
        simpa [Line.text, Line.pieces] using hread
      exact .of_stops (by simp [Line.text, Line.pieces]) hcomment
  | route r =>
      refine .of_stops ?_ (readsAs_route r h)
      simp only [Line.text, Line.pieces, Route.pieces, Piece.plain_cons, List.append_assoc]
      exact stops_of_head (Rule.keyword_ne_nil r.keyword_mem)
        fun c hc => (Rule.keyword_chars r.keyword_mem c hc).1

theorem atLine_pieces (options : LexerOptions) (lines : List Line) (final : Bool) :
    AtLine options (plain (Grammar.pieces lines final)) (Grammar.pieces lines final) := by
  have hfinal : BehindLine options (plain (if final then [newline] else []))
      (if final then [newline] else []) := by
    cases final with
    | false => exact .nil
    | true => exact BehindLine.nil.root.newline
  induction lines with
  | nil => exact hfinal.root
  | cons line lines ih =>
      -- behind a line stands the end of the file, or a newline and the lines after it
      cases lines with
      | nil =>
          have hline := atLine_line line hfinal
          simpa [Grammar.pieces, Line.text] using hline
      | cons next lines =>
          have hline := atLine_line line ih.newline
          simpa [Grammar.pieces, Line.text, newline] using hline

/-- The merged tokens of a well-formed file are the pieces that the grammar names, with
neighbours of one kind merged. -/
theorem coalesce?_source (options : LexerOptions) (lines : List Line) (final : Bool) :
    Token.coalesce? (Grammar.source lines final)
        (Stream.start options (Grammar.source lines final)).drain.tokens =
      some (layOut 0 (Piece.merged (Grammar.pieces lines final))) := by
  obtain ⟨chunks, mode, hrun, hlabels⟩ := (atLine_pieces options lines final).readsAs
  rw [← Grammar.toList_source] at hrun
  have hsource : (Grammar.source lines final).toList = plain chunks.flatten := by
    simpa using hrun.text_eq
  rw [(Stream.drain_start hrun).1, Piece.coalesce?_layOut hsource hrun.piece_ne_nil,
    Piece.merged_congr hlabels]

end RouteHighlight
