import FilterQuery.Json.Value
import FilterQuery.Decimal.Shortest

/-!
# Writing JSON

The compact form has no blanks; the indented form puts every item and member on a line
of its own. Strings escape the two delimiters and the control characters and nothing
else. A number that is not finite has no JSON form and is written `null`.
-/
namespace FilterQuery.Json

/-- Floats are written positionally from `10^-5` up to below `10^16`. -/
def floatLayout : Decimal.Layout := ⟨-5, 16, "+", .even⟩

def floatText : Binary64 → String
  | .finite negative m q _ => floatLayout.finite negative m q
  | _ => "null"

def hexDigit (n : Nat) : Char := Nat.digitChar n

/-- The way one character stands between the quotes. -/
def escapeChar (c : Char) : List Char :=
  match c with
  | '"' => ['\\', '"']
  | '\\' => ['\\', '\\']
  | '\x08' => ['\\', 'b']
  | '\x0c' => ['\\', 'f']
  | '\n' => ['\\', 'n']
  | '\r' => ['\\', 'r']
  | '\t' => ['\\', 't']
  | c =>
    if c.toNat < 0x20 then
      ['\\', 'u', '0', '0', hexDigit (c.toNat / 16), hexDigit (c.toNat % 16)]
    else [c]

def escapeChars : List Char → List Char
  | [] => []
  | c :: r => escapeChar c ++ escapeChars r

def stringChars (s : String) : List Char := '"' :: (escapeChars s.toList ++ ['"'])

mutual

/-- The compact form. -/
def compactChars : Json → List Char
  | null => "null".toList
  | bool b => (if b then "true" else "false").toList
  | int n => (toString n).toList
  | float x => (floatText x).toList
  | string s => stringChars s
  | array items => '[' :: (compactItems items ++ [']'])
  | object members => '\x7b' :: (compactMembers members ++ ['\x7d'])

def compactItems : List Json → List Char
  | [] => []
  | [j] => compactChars j
  | j :: js => compactChars j ++ ',' :: compactItems js

def compactMembers : List (String × Json) → List Char
  | [] => []
  | [(k, j)] => stringChars k ++ ':' :: compactChars j
  | (k, j) :: ms => stringChars k ++ ':' :: (compactChars j ++ ',' :: compactMembers ms)

end

def compact (j : Json) : String := String.ofList (compactChars j)

/-- A new line, indented by two blanks per level. -/
def newline (level : Nat) : List Char := '\n' :: List.replicate (2 * level) ' '

mutual

/-- The indented form, at a level of nesting. -/
def indentedChars (level : Nat) : Json → List Char
  | array [] => ['[', ']']
  | array items => '[' :: (indentedItems (level + 1) items ++ newline level ++ [']'])
  | object [] => ['\x7b', '\x7d']
  | object members =>
    '\x7b' :: (indentedMembers (level + 1) members ++ newline level ++ ['\x7d'])
  | j => compactChars j

def indentedItems (level : Nat) : List Json → List Char
  | [] => []
  | [j] => newline level ++ indentedChars level j
  | j :: js => newline level ++ indentedChars level j ++ ',' :: indentedItems level js

def indentedMembers (level : Nat) : List (String × Json) → List Char
  | [] => []
  | [(k, j)] => newline level ++ stringChars k ++ ':' :: ' ' :: indentedChars level j
  | (k, j) :: ms =>
    newline level ++ stringChars k ++ ':' :: ' ' :: (indentedChars level j ++
      ',' :: indentedMembers level ms)

end

def indented (j : Json) : String := String.ofList (indentedChars 0 j)

end FilterQuery.Json
