import FilterQuery.Yaml.Event
import FilterQuery.Text.Escaped
import FilterQuery.Value
import FilterQuery.Value.Literal

/-!
# The values of scalars

A plain scalar without a tag stands for nothing, a truth value or a number if it has the
form of one, and for its text otherwise. Tags of the core schema ask for a type, and
quoted scalars are always text.
-/
namespace FilterQuery.Yaml

/-- What a scalar stands for. -/
inductive Datum.Atom
  | unit
  | bool (b : Bool)
  | int (n : Int)
  /-- A whole number beyond 64 bits. -/
  | wide (n : Int)
  | float (x : Binary64)
  | text (s : String)

namespace Scalar

open Literal (digit?)

def isNullWord (s : String) : Bool := s = "null" || s = "Null" || s = "NULL" || s = "~"

def truth? (s : String) : Option Bool :=
  if s = "true" ∨ s = "True" ∨ s = "TRUE" then some true
  else if s = "false" ∨ s = "False" ∨ s = "FALSE" then some false
  else none

/-! ## Numbers -/

/-- The value of a digit of the bases up to sixteen. -/
def digitOf? (base : Nat) (c : Char) : Option Nat :=
  let d :=
    if '0' ≤ c ∧ c ≤ '9' then some (c.toNat - '0'.toNat)
    else if 'a' ≤ c ∧ c ≤ 'f' then some (c.toNat - 'a'.toNat + 10)
    else if 'A' ≤ c ∧ c ≤ 'F' then some (c.toNat - 'A'.toNat + 10)
    else none
  d.filter (· < base)

/-- A number from its digits, of which there is at least one. -/
def natural? (base : Nat) (s : List Char) : Option Nat :=
  if s.isEmpty then none
  else s.foldl (fun n c => do return (← n) * base + (← digitOf? base c)) (some 0)

/-- Zeros before other digits make a text of a number. -/
def isPadded (s : List Char) : Bool :=
  let digits :=
    match s with
    | '-' :: r | '+' :: r => r
    | r => r
  match digits with
  | '0' :: d :: r => (d :: r).all fun c => (digit? c).isSome
  | _ => false

/-- A number after the letter of its base. -/
def based? (s : List Char) : Option Nat :=
  match s with
  | '0' :: 'x' :: r => natural? 16 r
  | '0' :: 'o' :: r => natural? 8 r
  | '0' :: 'b' :: r => natural? 2 r
  | _ => none

/-- A number that is not negative, below a limit; a plus sign may precede it. -/
def unsigned? (limit : Nat) (s : List Char) : Option Nat :=
  let body :=
    match s with
    | '+' :: r => r
    | r => r
  ((based? body).or (if isPadded s then none else natural? 10 body)).filter (· < limit)

/-- A number after a minus sign, down to a limit. -/
def negative? (limit : Nat) (s : List Char) : Option Int :=
  match s with
  | '-' :: r =>
    let n := (based? r).or (if isPadded s then none else natural? 10 r)
    (n.filter (· ≤ limit)).map fun n => -(n : Int)
  | _ => none

def float? (s : List Char) : Option Binary64 :=
  let body :=
    match s with
    | '+' :: r => r
    | r => r
  let text := String.ofList body
  if text = ".inf" ∨ text = ".Inf" ∨ text = ".INF" then some (.infinite false)
  else if text = "-.inf" ∨ text = "-.Inf" ∨ text = "-.INF" then
    if body.length = s.length then some (.infinite true) else none
  else if (text = ".nan" ∨ text = ".NaN" ∨ text = ".NAN") ∧ body.length = s.length then some .nan
  else if body.length < s.length ∧ body.head?.any (fun c => c = '+' || c = '-') then none
  else
    match Literal.readFloat body with
    | .ok (.finite negative m q h) => some (.finite negative m q h)
    | _ => none

/-- A number of any size that has a form here. -/
def int? (s : List Char) : Option Datum.Atom :=
  ((unsigned? (Nat.pow 2 64) s).map fun n => Datum.Atom.int n).or <|
    ((negative? (Nat.pow 2 63) s).map .int).or <|
      ((unsigned? (Nat.pow 2 128) s).map fun n => .wide n).or <|
        (negative? (Nat.pow 2 127) s).map .wide

/-! ## Values -/

/-- The value of a scalar by its form. -/
def plainAtom (text : String) : Datum.Atom :=
  let s := text.toList
  if text.isEmpty ∨ isNullWord text then .unit
  else
    match truth? text, int? s with
    | some b, _ => .bool b
    | none, some n => n
    | none, none =>
      match if isPadded s then none else float? s with
      | some x => .float x
      | none => .text text

/-- What is said of a text that is not of the type that its tag asks for. -/
def misfit (text expected : String) : String :=
  s!"invalid value: string {Text.quoted text}, expected {expected}"

/-- The value of a scalar, or why its tag does not fit. -/
def atom (s : Scalar) : Except String Datum.Atom :=
  let need (x : Option Datum.Atom) (expected : String) : Except String Datum.Atom :=
    match x with
    | some a => .ok a
    | none => .error (misfit s.text expected)
  match s.tag with
  | none => .ok (if s.style = .plain then plainAtom s.text else .text s.text)
  | some tag =>
    if tag = .bool then need ((truth? s.text).map .bool) "a boolean"
    else if tag = .int then need (int? s.text.toList) "an integer"
    else if tag = .float then need ((float? s.text.toList).map .float) "a float"
    else if tag = .null then need (if isNullWord s.text then some .unit else none) "null"
    else .ok (if tag.isLocal ∧ s.style = .plain then plainAtom s.text else .text s.text)

/-- Whether nothing was written, which may stand for an empty sequence or mapping. -/
def isVoid (s : Scalar) : Bool := s.text.isEmpty && s.style == .plain

end Scalar

/-- Floats are described positionally, however large or small they are. -/
def floatLayout : Decimal.Layout := ⟨-400, 400, "", .up⟩

/-- How a value is named in a message. -/
def Datum.Atom.description : Datum.Atom → String
  | unit => "unit value"
  | bool b => "boolean `" ++ Value.showBool b ++ "`"
  | int n => s!"integer `{n}`"
  | wide n => s!"integer `{n}` as " ++ if n < 0 then "i128" else "u128"
  | float (.finite negative m q _) =>
    "floating point `" ++ floatLayout.finite negative m q ++ "`"
  | float x => "floating point `" ++ Value.showFloat x ++ "`"
  | text s => s!"string {Text.quoted s}"

/-- A value of any shape. -/
inductive Datum
  | atom (a : Datum.Atom)
  | sequence (items : List Datum)
  | mapping (entries : List (Datum × Datum))

end FilterQuery.Yaml
