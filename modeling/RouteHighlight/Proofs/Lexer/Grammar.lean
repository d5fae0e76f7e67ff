import RouteHighlight.Lexer.Rule
import RouteHighlight.Proofs.Lexer.Labels
import RouteHighlight.Proofs.Text.Runs

/-!
# Well-formed routes files

A well-formed file is a list of lines, each blank, a comment or a route.  The types carry what
makes a line well formed, so every value of them is a line.  `Line.pieces` names the parts of a
line as the grammar does; its text is what these pieces hold.
-/

namespace RouteHighlight.Grammar

open Text (isBlank isWord)
open Piece (plain)

structure Word where
  chars : List Char
  ne_nil : chars ≠ []
  word : ∀ c ∈ chars, isWord c = true

structure Blanks where
  chars : List Char
  blank : ∀ c ∈ chars, isBlank c = true
  inLine : '\n' ∉ chars

structure Gap extends Blanks where
  ne_nil : chars ≠ []

inductive PathPart where
  | literal (c : Char) (blank : isBlank c = false) (colon : c ≠ ':')
  | parameter (name : Word)

namespace PathPart

def piece : PathPart → Piece
  | literal c _ _ => ⟨.stringLiteral, [c]⟩
  | parameter name => ⟨.variable, ':' :: name.chars⟩

/-- The name of a parameter does not go on behind it. -/
def Precedes : PathPart → PathPart → Prop
  | parameter _, literal c _ _ => isWord c = false
  | _, _ => True

end PathPart

structure Path where
  parts : List PathPart
  ne_nil : parts ≠ []
  chain : parts.IsChain PathPart.Precedes

def Path.pieces (path : Path) : List Piece := path.parts.map PathPart.piece

/-- What stands behind the name of a method. -/
inductive Arguments where
  | omitted
  | empty
  | list (p : List Char) (ne_nil : p ≠ []) (close : ')' ∉ p)

def Arguments.pieces : Arguments → List Piece
  | omitted => []
  | empty => [⟨.text, ['(']⟩, ⟨.text, [')']⟩]
  | list p _ _ => [⟨.text, ['(']⟩, ⟨.variable, p⟩, ⟨.text, [')']⟩]

def segmentPiece (name : Word) : Piece := ⟨.className, name.chars ++ ['.']⟩

structure Route where
  keyword : String
  keyword_mem : keyword ∈ Rule.routeKeywords
  gap : Gap
  path : Path
  secondGap : Gap
  segments : List Word
  method : Word
  arguments : Arguments

def Route.handler (route : Route) : List Piece :=
  route.segments.map segmentPiece ++
    (⟨.functionName, route.method.chars⟩ :: route.arguments.pieces)

def Route.pieces (route : Route) : List Piece :=
  ⟨.keyword, route.keyword.toList⟩ :: ⟨.whitespace, route.gap.chars⟩ ::
    (route.path.pieces ++ (⟨.whitespace, route.secondGap.chars⟩ :: route.handler))

inductive Line where
  | blank (text : Blanks)
  | comment (body : List Char) (inLine : '\n' ∉ body)
  | route (route : Route)

def Line.pieces : Line → List Piece
  | blank text => [⟨.whitespace, text.chars⟩]
  | comment body _ => [⟨.comment, '#' :: body⟩]
  | route r => r.pieces

def Line.text (line : Line) : List Char := plain line.pieces

def newline : Piece := ⟨.whitespace, ['\n']⟩

/-- The lines joined by newlines, with or without one at the end. -/
def source (lines : List Line) (final : Bool) : String :=
  String.ofList (['\n'].intercalate (lines.map Line.text) ++ if final then ['\n'] else [])

def pieces (lines : List Line) (final : Bool) : List Piece :=
  [newline].intercalate (lines.map Line.pieces) ++ if final then [newline] else []

theorem plain_intercalate (parts : List (List Piece)) :
    plain ([newline].intercalate parts) = ['\n'].intercalate (parts.map plain) := by
  induction parts with
  | nil => rfl
  | cons part parts ih =>
      cases parts with
      | nil => simp
      | cons next parts =>
          rw [List.intercalate_cons_cons, Piece.plain_append, Piece.plain_append, ih]
          simp only [List.map_cons, List.intercalate_cons_cons]
          rfl

theorem toList_source (lines : List Line) (final : Bool) :
    (source lines final).toList = plain (pieces lines final) := by
  have htext : lines.map Line.text = (lines.map Line.pieces).map plain := by
    rw [List.map_map]
    rfl
  rw [source, String.toList_ofList, htext, pieces, Piece.plain_append, plain_intercalate]
  cases final <;> rfl

end RouteHighlight.Grammar
