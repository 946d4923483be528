import FilterQuery.Decimal.Binary64

/-!
# Shortest decimal text of a floating point number

Of all decimals that read back as the given number the shortest is taken, and of those
the nearest. For each count of digits only the two neighbours of the number on that
grid are tried, and a neighbour counts only when it reads back. A layout then says
where the notation turns scientific and how its exponent is written.
-/
namespace FilterQuery

namespace Decimal

/-- `digits · 10^exponent`. -/
structure Scaled where
  digits : Nat
  exponent : Int
  deriving DecidableEq, Repr

/-- The value nearest to the decimal. -/
def Scaled.toBinary64 (s : Scaled) : Binary64 := .ofDecimal false s.digits s.exponent

/-- Which of two equally near neighbours is taken. -/
inductive Tie
  | up
  | even
  deriving DecidableEq, Repr

/-- Raises `e` while `10^(e+1)` does not pass `n / d`. -/
def raiseExponent (n d : Nat) : Nat → Int → Int
  | 0, e => e
  | fuel + 1, e =>
    let s :=
      if 0 ≤ e + 1 then (n, d * Nat.pow 10 (e + 1).toNat)
      else (n * Nat.pow 10 (-(e + 1)).toNat, d)
    if s.2 ≤ s.1 then raiseExponent n d fuel (e + 1) else e

/-- The power of ten of the leading digit of `n / d`. -/
def leadingExponent (n d : Nat) : Int :=
  let estimate := ((Nat.log2 n : Int) - Nat.log2 d) * 30103 / 100000
  raiseExponent n d 6 (estimate - 2)

/-- The neighbours of `n / d` among the multiples of `10^e` that read back as the number
given by `m` and `q`; of two the nearer. -/
def neighbour? (tie : Tie) (m : Nat) (q : Int) (n d : Nat) (e : Int) : Option Scaled :=
  let s := if 0 ≤ e then (n, d * Nat.pow 10 e.toNat) else (n * Nat.pow 10 (-e).toNat, d)
  let low := s.1 / s.2
  let rest := s.1 % s.2
  let reads (c : Nat) : Bool :=
    match (Scaled.mk c e).toBinary64 with
    | .finite _ m' q' _ => m' == m && q' == q
    | _ => false
  let high := low + 1
  let preferHigh :=
    2 * rest > s.2 || (2 * rest == s.2 && (match tie with | .up => true | .even => low % 2 == 1))
  if rest = 0 then if reads low then some ⟨low, e⟩ else none
  else
    match reads low, reads high with
    | true, true => some ⟨if preferHigh then high else low, e⟩
    | true, false => some ⟨low, e⟩
    | false, true => some ⟨high, e⟩
    | false, false => none

/-- Tries `count` grids, from the coarsest one down. -/
def firstNeighbour (tie : Tie) (m : Nat) (q : Int) (n d : Nat) (lead : Int) :
    Nat → Nat → Option Scaled
  | 0, _ => none
  | fuel + 1, k =>
    (neighbour? tie m q n d (lead + 1 - k)).or (firstNeighbour tie m q n d lead fuel (k + 1))

/-- Drops the zeros at the end of the digits. -/
def Scaled.normalize (s : Scaled) : Nat → Scaled
  | 0 => s
  | fuel + 1 =>
    if s.digits ≠ 0 ∧ s.digits % 10 = 0 then
      Scaled.normalize ⟨s.digits / 10, s.exponent + 1⟩ fuel
    else s

/-- The shortest decimal that reads back as `m · 2^q`, for a positive `m`. -/
def shortest (tie : Tie) (m : Nat) (q : Int) : Scaled :=
  let f := Binary64.fraction m q
  let lead := leadingExponent f.1 f.2
  match firstNeighbour tie m q f.1 f.2 lead 17 1 with
  | some s => s.normalize 18
  | none => if 0 ≤ q then ⟨m * Nat.pow 2 q.toNat, 0⟩ else ⟨m * Nat.pow 5 (-q).toNat, q⟩

/-- How a decimal is laid out. -/
structure Layout where
  /-- The least power of ten of the leading digit that is written positionally. -/
  least : Int
  /-- The least power of ten of the leading digit that is too large for that. -/
  limit : Int
  /-- What precedes the digits of a positive exponent. -/
  exponentPlus : String
  tie : Tie

def zeros (n : Nat) : String := String.ofList (List.replicate n '0')

/-- A decimal with its digits around the point, always with a digit on both sides. -/
def positional (ds : List Char) (point : Int) : String :=
  if point ≤ 0 then "0." ++ zeros (-point).toNat ++ String.ofList ds
  else if (ds.length : Int) ≤ point then
    String.ofList ds ++ zeros (point - ds.length).toNat ++ ".0"
  else String.ofList (ds.take point.toNat) ++ "." ++ String.ofList (ds.drop point.toNat)

def scientific (plus : String) (ds : List Char) (point : Int) : String :=
  let mantissa :=
    match ds with
    | [] => ""
    | [d] => d.toString
    | d :: r => d.toString ++ "." ++ String.ofList r
  let e := point - 1
  mantissa ++ "e" ++ (if e < 0 then "-" ++ toString (-e).toNat else plus ++ toString e.toNat)

/-- The text of the finite number `±m · 2^q`. -/
def Layout.finite (l : Layout) (negative : Bool) (m : Nat) (q : Int) : String :=
  let body :=
    if m = 0 then "0.0"
    else
      let s := shortest l.tie m q
      let ds := Nat.toDigits 10 s.digits
      let point := s.exponent + ds.length
      if l.least < point ∧ point ≤ l.limit then positional ds point
      else scientific l.exponentPlus ds point
  if negative then "-" ++ body else body

end Decimal

end FilterQuery
