/-!
# Sets of characters as ranges

A set of characters is a list of ranges of code points, in order and with gaps between
them. A set is also seen as what matches it byte by byte: each range falls into sequences
of byte ranges, one for each byte of the encoding.
-/
namespace FilterQuery.Regex

/-- Ranges of code points, ends included. -/
abbrev Ranges := List (Nat × Nat)

namespace Ranges

/-- Joins ranges that touch, out of a list sorted by where they begin. -/
def join : Option (Nat × Nat) → List (Nat × Nat) → Ranges
  | none, [] => []
  | some r, [] => [r]
  | none, r :: rs => join (some r) rs
  | some (a, b), (c, d) :: rs =>
    if c ≤ b + 1 then join (some (a, max b d)) rs else (a, b) :: join (some (c, d)) rs

def ofList (rs : List (Nat × Nat)) : Ranges := join none (rs.mergeSort fun r s => r.1 ≤ s.1)

def lastCode : Nat := 0x10FFFF

def full : Ranges := [(0, lastCode)]

/-- The code points that are no characters. -/
def surrogates : Ranges := [(0xD800, 0xDFFF)]

/-- What lies between the ranges, from some code point on. -/
def gaps (start : Nat) : Ranges → Ranges
  | [] => if start ≤ lastCode then [(start, lastCode)] else []
  | (a, b) :: rs => if start < a then (start, a - 1) :: gaps (b + 1) rs else gaps (b + 1) rs

def complement (r : Ranges) : Ranges := gaps 0 r

def union (r s : Ranges) : Ranges := ofList (r ++ s)

def inter (r s : Ranges) : Ranges := complement (union (complement r) (complement s))

def diff (r s : Ranges) : Ranges := inter r (complement s)

/-- What is in one of two sets but not in both. -/
def symmDiff (r s : Ranges) : Ranges := union (diff r s) (diff s r)

def isAscii (r : Ranges) : Bool := r.all fun p => p.2 < 0x80

/-! ## Sequences of bytes -/

/-- The numbers of a range as sequences of digit ranges to the base 64; the first digit is
not bounded, and `count` digits follow it. -/
def digits : (count : Nat) → (low high : Nat) → List (List (Nat × Nat))
  | 0, low, high => [[(low, high)]]
  | count + 1, low, high =>
    let unit := Nat.pow 64 (count + 1)
    let first := low / unit
    let last := high / unit
    let within (d low high : Nat) := (digits count low high).map ((d, d) :: ·)
    if first = last then within first (low % unit) (high % unit)
    else
      let fromStart := low % unit == 0
      let toEnd := high % unit + 1 == unit
      let low' := if fromStart then first else first + 1
      let high' := if toEnd then last + 1 else last
      (if fromStart then [] else within first (low % unit) (unit - 1)) ++
        (if low' < high' then [(low', high' - 1) :: .replicate (count + 1) (0, 63)] else []) ++
        (if toEnd then [] else within last 0 (high % unit))

/-- The blocks of characters whose encodings have one length: first and last code point,
how many bytes follow the first, and what is added to it. -/
def blocks : List ((Nat × Nat) × Nat × Nat) :=
  [((0, 0x7F), 0, 0), ((0x80, 0x7FF), 1, 0xC0), ((0x800, 0xD7FF), 2, 0xE0),
    ((0xE000, 0xFFFF), 2, 0xE0), ((0x10000, 0x10FFFF), 3, 0xF0)]

/-- Digits as the bytes of an encoding that begins with a mark. -/
def bytesOf (mark : Nat) : List (Nat × Nat) → List (Nat × Nat)
  | [] => []
  | (a, b) :: ds => (a + mark, b + mark) :: ds.map fun (a, b) => (a + 0x80, b + 0x80)

/-- A range as sequences of byte ranges. -/
def rangeSequences (p : Nat × Nat) : List (List (Nat × Nat)) :=
  blocks.flatMap fun ((low, high), count, mark) =>
    if max p.1 low ≤ min p.2 high then
      (digits count (max p.1 low) (min p.2 high)).map (bytesOf mark)
    else []

/-- The set as sequences of byte ranges, in order. -/
def sequences (r : Ranges) : List (List (Nat × Nat)) := r.flatMap rangeSequences

end Ranges

end FilterQuery.Regex
