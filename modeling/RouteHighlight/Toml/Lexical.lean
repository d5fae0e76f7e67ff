import RouteHighlight.Text.Reader

/-!
# Blanks, comments and strings of TOML

The lexical part of the grammar: what separates lexemes, and the four kinds of strings.
-/

namespace RouteHighlight.Toml

open Text Text.Reader

def isSpace (c : Char) : Bool := c == ' ' || c == '\t'

def spaces : Reader Unit := do
  let _ ← takeWhile isSpace

def newline : Reader Unit := char '\n' <|> literal ['\x0d', '\n']

/-- The characters that may stand in a line: all but the controls, and the tab. -/
def isLineChar (c : Char) : Bool := c == '\t' || (0x20 ≤ c.toNat && c.toNat != 0x7F)

def comment : Reader Unit := do
  char '#'
  let _ ← takeWhile isLineChar

def gaps : Reader Unit := do
  let _ ← many do
    spaces
    let _ ← maybe comment
    newline
  spaces

def lineEnd : Reader Unit := do
  spaces
  let _ ← maybe comment
  newline <|> finish

def codePoint (digits : Nat) : Reader Char := do
  let code ← exactly isHexDigit digits
  match charOfCode? (digitsValue 16 code) with
  | some c => return c
  | none => failure

def escape : Reader Char := do
  char '\\'
  match ← oneOf fun _ => true with
  | 'b' => return '\x08'
  | 't' => return '\t'
  | 'n' => return '\n'
  | 'f' => return '\x0c'
  | 'r' => return '\x0d'
  | '"' => return '"'
  | '\\' => return '\\'
  | 'u' => codePoint 4
  | 'U' => codePoint 8
  | _ => failure

/-- A line break that is escaped stands for nothing, with all blanks and line breaks behind
it. -/
def escapedNewline : Reader Unit := do
  char '\\'
  spaces
  newline
  let _ ← many do
    spaces
    newline
  spaces

def isBasicChar (c : Char) : Bool := isLineChar c && c != '"' && c != '\\'

def isLiteralChar (c : Char) : Bool := isLineChar c && c != '\''

def basicString : Reader String := do
  char '"'
  let cs ← many (oneOf isBasicChar <|> escape)
  char '"'
  return String.ofList cs

def literalString : Reader String := do
  char '\''
  let cs ← takeWhile isLiteralChar
  char '\''
  return String.ofList cs

def innerQuotes (quote : Char) : Reader (List Char) := do
  let quotes ← takeWhile1 (· == quote)
  if quotes.length < 3 then return quotes else failure

/-- The three quotes at the end of a string. Up to two more before them belong to it. -/
def closingQuotes (quote : Char) : Reader (List Char) := do
  let quotes ← takeWhile (· == quote)
  if 3 ≤ quotes.length ∧ quotes.length ≤ 5 then return quotes.drop 3 else failure

/-- A string over several lines, made of the given pieces. A line break right behind the opening
quotes does not count; all others are single newlines. -/
def multilineString (quote : Char) (piece : Reader (List Char)) : Reader String := do
  literal [quote, quote, quote]
  let _ ← maybe newline
  let pieces ← many (piece <|> (do newline; return ['\n']) <|> innerQuotes quote)
  let quotes ← closingQuotes quote
  return String.ofList (pieces.flatten ++ quotes)

def basicPiece : Reader (List Char) :=
  (do return [← oneOf isBasicChar]) <|> (do escapedNewline; return []) <|> (do return [← escape])

def string : Reader String :=
  multilineString '"' basicPiece <|> basicString <|>
    multilineString '\'' (takeWhile1 isLiteralChar) <|> literalString

def isBareChar (c : Char) : Bool :=
  isDigit c || 'a' ≤ c && c ≤ 'z' || 'A' ≤ c && c ≤ 'Z' || c == '_' || c == '-'

def keyPart : Reader String := do
  spaces
  let name ← basicString <|> literalString <|>
    (do return String.ofList (← takeWhile1 isBareChar))
  spaces
  return name

def keyLimit : Nat := 80

def key : Reader (List String × String) := do
  let parts ← sepBy1 keyPart (char '.')
  match parts.getLast? with
  | some name => if parts.length < keyLimit then return (parts.dropLast, name) else failure
  | none => failure

end RouteHighlight.Toml
