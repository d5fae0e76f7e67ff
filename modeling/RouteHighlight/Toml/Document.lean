import RouteHighlight.Toml.Lexical
import RouteHighlight.Toml.Number
import RouteHighlight.Toml.Tagged

/-!
# Documents of TOML

A document is a list of lines: assignments and headers. Headers divide it into sections, each
of which fills one table.
-/

namespace RouteHighlight.Toml

open Text Text.Reader

/-- An assignment: the tables that its key leads through, the name, and the value. -/
structure Assignment where
  path : List String
  name : String
  value : Value

def Entries.assignAll? (entries : Entries) (assignments : List Assignment) : Option Entries :=
  assignments.foldlM (fun entries a => entries.assign? a.name a.value a.path) entries

def arrayOf (item : Reader Value) : Reader Value := do
  char '['
  gaps
  let items ← maybe (sepBy1 (do let v ← item; gaps; return v) (do char ','; gaps))
  let _ ← maybe (if items.isSome then char ',' else failure)
  gaps
  char ']'
  return .array (items.getD [])

def assignmentOf (value : Reader Value) : Reader Assignment := do
  let (path, name) ← key
  char '='
  spaces
  return ⟨path, name, ← value⟩

def inlineTableOf (value : Reader Value) : Reader Value := do
  char '\x7b'
  spaces
  let pairs ← maybe
    (sepBy1 (do let a ← assignmentOf value; spaces; return a) (do char ','; spaces))
  char '\x7d'
  match Entries.assignAll? [] (pairs.getD []) with
  | some entries => return .table (Entry.closeAll entries)
  | none => failure

def scalar : Reader Value :=
  (do return .text (← string)) <|>
  (do literal "true".toList; return .bool true) <|>
  (do literal "false".toList; return .bool false) <|>
  (do return .dateTime (← dateTime .strict)) <|>
  (do return .float (← float)) <|>
  (do return .int (← integer))

def value : Nat → Reader Value
  | 0 => scalar
  | depth + 1 => scalar <|> arrayOf (value depth) <|> inlineTableOf (value depth)

def maxDepth : Nat := 79

inductive Statement where
  | assignment (assignment : Assignment)
  | header (path : List String) (name : String)
  | repeatedHeader (path : List String) (name : String)

def header : Reader Statement :=
  (do
    literal ['[', '[']
    let (path, name) ← key
    literal [']', ']']
    return .repeatedHeader path name) <|>
  (do
    char '['
    let (path, name) ← key
    char ']'
    return .header path name)

def line : Reader (Option Statement) := do
  spaces
  let statement ← maybe (header <|> (do return .assignment (← assignmentOf (value maxDepth))))
  lineEnd
  return statement

def lines : Reader (List Statement) := do
  let statements ← many line
  finish
  return statements.reduceOption

def body : List Statement → List Assignment × List Statement
  | .assignment a :: rest =>
    let (assignments, rest) := body rest
    (a :: assignments, rest)
  | rest => ([], rest)

theorem length_body_le (statements : List Statement) :
    (body statements).2.length ≤ statements.length := by
  fun_induction body statements <;> grind

def fillSections? (entries : Entries) : List Statement → Option Entries
  | [] => some entries
  | .assignment _ :: _ => none
  | .header path name :: rest =>
    match _h : body rest with
    | (assignments, rest') => do
      let entries ← entries.descend? (·.openTable? name (·.assignAll? assignments)) path
      fillSections? entries rest'
  | .repeatedHeader path name :: rest =>
    match _h : body rest with
    | (assignments, rest') => do
      let entries ← entries.descend? (·.appendTable? name (·.assignAll? assignments)) path
      fillSections? entries rest'
termination_by statements => statements.length
decreasing_by
  all_goals
    have := length_body_le rest
    simp only [_h] at this
    simp only [List.length_cons]
    omega

def build? (statements : List Statement) : Option (List (String × Value)) := do
  let (assignments, sections) := body statements
  let root ← Entries.assignAll? [] assignments
  let entries ← fillSections? root sections
  return Entry.closeAll entries

def dropMark : List Char → List Char
  | '\ufeff' :: cs => cs
  | cs => cs

/-- The table that a document describes. The document itself cannot stand for a date and time. -/
def parse? (text : String) : Option (List (String × Value)) := do
  let statements ← readAll? lines (dropMark text.toList)
  match ← (Value.table (← build? statements)).resolve? with
  | .table entries => return entries
  | _ => none

end RouteHighlight.Toml
