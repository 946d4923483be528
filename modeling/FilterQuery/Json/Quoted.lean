import FilterQuery.Json.Flaw
import FilterQuery.Text.Hexadecimal

/-!
# Strings of JSON texts

`Quoted.read` gives the characters of a string whose opening quote has been passed.
`Quoted.skip` only looks for its end: it checks the form of escapes but not whether the
surrogates that they name come in pairs, and it stops before a control character, which
`Quoted.read` passes.
-/
namespace FilterQuery.Json.Quoted

/-- The number of four hexadecimal digits. -/
def unit? (a b c d : Char) : Option Nat := do
  let w ← Text.hexValue? a
  let x ← Text.hexValue? b
  let y ← Text.hexValue? c
  let z ← Text.hexValue? d
  return ((w * 16 + x) * 16 + y) * 16 + z

/-- The flaw of an escape whose four digits should stand here. -/
def hexFlaw (r : Rest) : Flaw :=
  if utf8Length r < 4 then .before .endInString [] else ⟨.invalidEscape, ⟨r, 4⟩⟩

/-- The character of an escape with one letter. -/
def shortEscape? : Char → Option Char
  | '"' => some '"'
  | '\\' => some '\\'
  | '/' => some '/'
  | 'b' => some '\x08'
  | 'f' => some '\x0c'
  | 'n' => some '\n'
  | 'r' => some '\r'
  | 't' => some '\t'
  | _ => none

def isControl (c : Char) : Bool := c.toNat < 0x20

/-- What follows the closing quote. -/
def skip : Rest → Except Flaw Rest
  | [] => .error (.before .endInString [])
  | '"' :: r => .ok r
  | ['\\'] => .error (.before .endInString [])
  | '\\' :: 'u' :: a :: b :: c :: d :: r =>
    match unit? a b c d with
    | some _ => skip r
    | none => .error (hexFlaw (a :: b :: c :: d :: r))
  | '\\' :: e :: r =>
    if e = 'u' then .error (hexFlaw r)
    else if (shortEscape? e).isSome then skip r
    else .error (.within .invalidEscape (e :: r))
  | c :: r => if isControl c then .error (.before .controlCharacter (c :: r)) else skip r

def isLead (n : Nat) : Bool := 0xD800 ≤ n && n ≤ 0xDBFF

def isTrail (n : Nat) : Bool := 0xDC00 ≤ n && n ≤ 0xDFFF

/-- The character of a pair of surrogates. -/
def paired (lead trail : Nat) : Char :=
  Char.ofNat (0x10000 + (lead - 0xD800) * 0x400 + (trail - 0xDC00))

/-- The flaw of a leading surrogate that is not followed by a trailing one. -/
def unpairedFlaw : Rest → Flaw
  | [] => .before .endInString []
  | '\\' :: [] => .before .endInString []
  | '\\' :: 'u' :: a :: b :: c :: d :: r =>
    match unit? a b c d with
    | some _ => .before .loneSurrogate r
    | none => hexFlaw (a :: b :: c :: d :: r)
  | '\\' :: e :: r => if e = 'u' then hexFlaw r else .within .halfSurrogatePair (e :: r)
  | r => .within .halfSurrogatePair r

/-- The characters up to the closing quote, and what follows it. -/
def read : Rest → Except Flaw (List Char × Rest)
  | [] => .error (.before .endInString [])
  | '"' :: r => .ok ([], r)
  | ['\\'] => .error (.before .endInString [])
  | '\\' :: 'u' :: a :: b :: c :: d :: r =>
    match unit? a b c d with
    | none => .error (hexFlaw (a :: b :: c :: d :: r))
    | some n =>
      if isTrail n then .error (.before .loneSurrogate r)
      else if isLead n then
        match r with
        | '\\' :: 'u' :: a' :: b' :: c' :: d' :: r' =>
          match (unit? a' b' c' d').filter isTrail with
          | some n' => (read r').map fun p => (paired n n' :: p.1, p.2)
          | none => .error (unpairedFlaw r)
        | _ => .error (unpairedFlaw r)
      else (read r).map fun p => (Char.ofNat n :: p.1, p.2)
  | '\\' :: e :: r =>
    if e = 'u' then .error (hexFlaw r)
    else
      match shortEscape? e with
      | some c => (read r).map fun p => (c :: p.1, p.2)
      | none => .error (.within .invalidEscape (e :: r))
  | c :: r =>
    if isControl c then .error (.within .controlCharacter (c :: r))
    else (read r).map fun p => (c :: p.1, p.2)

end FilterQuery.Json.Quoted
