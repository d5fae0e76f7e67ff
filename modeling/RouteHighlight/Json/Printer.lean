import RouteHighlight.Json.Value

/-!
# Written JSON

A value is written on one line, or laid out with a line for every item and two spaces for every
level. Strings escape what JSON demands and nothing else.
-/

namespace RouteHighlight.Json

structure Layout where
  /-- What stands before an item or a closing bracket of a level. -/
  line : Nat → List Char
  colon : List Char

def Layout.compact : Layout := ⟨fun _ => [], [':']⟩

def Layout.pretty : Layout := ⟨fun level => '\n' :: List.replicate (2 * level) ' ', [':', ' ']⟩

def hexDigit (n : Nat) : Char := Nat.digitChar (n % 16)

def escapeChar (c : Char) : List Char :=
  match c with
  | '"' => ['\\', '"']
  | '\\' => ['\\', '\\']
  | '\x08' => ['\\', 'b']
  | '\x0c' => ['\\', 'f']
  | '\n' => ['\\', 'n']
  | '\x0d' => ['\\', 'r']
  | '\t' => ['\\', 't']
  | c =>
    if c.toNat < 0x20 then ['\\', 'u', '0', '0', hexDigit (c.toNat / 16), hexDigit c.toNat]
    else [c]

def stringText (s : String) : List Char :=
  '"' :: (s.toList.flatMap escapeChar ++ ['"'])

def decimalText (d : Decimal) : List Char :=
  (if d.negative then ['-'] else []) ++ Decimal.digitsText d.digits ++
    'e' :: Decimal.intText d.exponent

namespace Value

mutual

def chars (layout : Layout) (level : Nat) : Value → List Char
  | .null => "null".toList
  | .bool true => "true".toList
  | .bool false => "false".toList
  | .int n => Decimal.intText n
  | .decimal d => decimalText d
  | .str s => stringText s
  | .arr [] => ['[', ']']
  | .arr (item :: items) =>
    '[' :: (itemsChars layout (level + 1) (item :: items) ++ layout.line level ++ [']'])
  | .obj [] => ['\x7b', '\x7d']
  | .obj (field :: fields) =>
    '\x7b' :: (fieldsChars layout (level + 1) (field :: fields) ++ layout.line level ++ ['\x7d'])

def itemsChars (layout : Layout) (level : Nat) : List Value → List Char
  | [] => []
  | [item] => layout.line level ++ item.chars layout level
  | item :: items =>
    layout.line level ++ item.chars layout level ++ ',' :: itemsChars layout level items

def fieldsChars (layout : Layout) (level : Nat) : List (String × Value) → List Char
  | [] => []
  | [(name, value)] =>
    layout.line level ++ stringText name ++ layout.colon ++ value.chars layout level
  | (name, value) :: fields =>
    layout.line level ++ stringText name ++ layout.colon ++ value.chars layout level ++
      ',' :: fieldsChars layout level fields

end

def compact (value : Value) : String := String.ofList (value.chars .compact 0)

def pretty (value : Value) : String := String.ofList (value.chars .pretty 0)

end Value

end RouteHighlight.Json
