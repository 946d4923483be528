import FilterQuery.Regex.Ranges

/-!
# Sets of characters that are written down

The sets that names of properties stand for are given by their code points, or by way of
other such sets. They are worked out only where they are asked for.
-/
namespace FilterQuery.Regex

/-- A description of a set of characters. -/
inductive CharSet
  /-- Code points and ranges of them, in hexadecimal digits and in order. -/
  | codes (text : String)
  /-- The code points that lie so many steps after the first of a range. -/
  | every (step first last : Nat)
  | union (s t : CharSet)
  | diff (s t : CharSet)

namespace CharSet

instance : Union CharSet := ⟨union⟩

instance : SDiff CharSet := ⟨diff⟩

def empty : CharSet := codes ""

def all : CharSet := codes "0-10FFFF"

def unions (sets : List CharSet) : CharSet := sets.foldl union empty

def hexDigit (c : Char) : Nat :=
  if c.isDigit then c.toNat - '0'.toNat else c.toNat - 'A'.toNat + 10

/-- How far a text of code points has been read: the ranges in reverse, where the range
that is being read begins, and the code point that is being read. -/
structure Reading where
  ranges : List (Nat × Nat) := []
  first : Option Nat := none
  code : Option Nat := none

namespace Reading

/-- Ends a range, if one is being read. -/
def close (st : Reading) : Reading :=
  match st.code with
  | some n => { ranges := (st.first.getD n, n) :: st.ranges }
  | none => st

def step (st : Reading) (c : Char) : Reading :=
  if c = '-' then { st with first := st.code, code := none }
  else if c.isAlphanum then { st with code := some (16 * st.code.getD 0 + hexDigit c) }
  else st.close

end Reading

/-- The ranges of a text of code points. -/
def rangesOf (text : String) : Ranges :=
  Ranges.ofList (text.toList.foldl Reading.step {}).close.ranges.reverse

/-- The set as ranges. -/
def ranges : CharSet → Ranges
  | codes text => rangesOf text
  | every step first last =>
    (List.range ((last - first) / step + 1)).map fun i => (first + i * step, first + i * step)
  | union s t => s.ranges.union t.ranges
  | diff s t => s.ranges.diff t.ranges

end CharSet

/-- A set of characters with the names that a pattern may use for it, in lower case and
without blanks, hyphens and low lines. -/
structure NamedSet where
  names : List String
  set : CharSet

/-- The set of a name. -/
def NamedSet.lookup? (sets : List NamedSet) (name : String) : Option CharSet :=
  (sets.find? fun s => s.names.contains name).map (·.set)

end FilterQuery.Regex
