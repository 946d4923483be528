import FilterQuery.Text.Hidden

/-!
# Text between double quotes, for people

A quoted text shows every character: quotes and backslashes are protected by a
backslash, tab, newline, return and NUL have letters of their own, and every hidden
character is written by its code point in braces.
-/
namespace FilterQuery.Text

/-- The way one character is shown. -/
def showChar (c : Char) : List Char :=
  match c with
  | '"' => ['\\', '"']
  | '\\' => ['\\', '\\']
  | '\n' => ['\\', 'n']
  | '\r' => ['\\', 'r']
  | '\t' => ['\\', 't']
  | '\x00' => ['\\', '0']
  | c =>
    if isHidden c then '\\' :: 'u' :: '\x7b' :: Nat.toDigits 16 c.toNat ++ ['\x7d']
    else [c]

def showChars : List Char → List Char
  | [] => []
  | c :: r => showChar c ++ showChars r

/-- The text in double quotes with every character shown. -/
def quoted (s : String) : String :=
  String.ofList ('"' :: showChars s.toList ++ ['"'])

end FilterQuery.Text
