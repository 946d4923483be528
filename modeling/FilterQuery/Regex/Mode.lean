import FilterQuery.Regex.CaseFold
import FilterQuery.Regex.Property
import FilterQuery.Regex.Term

/-!
# What expressions match

The flags that are set where a part of an expression stands decide what it matches. An
expression has to match whole characters, so that outside of Unicode mode nothing may stand
for a byte beyond ASCII.
-/
namespace FilterQuery.Regex

/-- The settings of the flags that have a say in what is matched. -/
structure Mode where
  unicode : Bool := true
  ignoreCase : Bool := false
  multiLine : Bool := false
  dotNewline : Bool := false
  crlf : Bool := false
  swapGreed : Bool := false

namespace Mode

def switched (m : Mode) (fs : Flags) : Mode :=
  { unicode := setting fs .unicode m.unicode
    ignoreCase := setting fs .ignoreCase m.ignoreCase
    multiLine := setting fs .multiLine m.multiLine
    dotNewline := setting fs .dotNewline m.dotNewline
    crlf := setting fs .crlf m.crlf
    swapGreed := setting fs .swapGreed m.swapGreed }

/-- Only Unicode mode has what stands beyond ASCII. -/
def allows (m : Mode) (beyondAscii : Bool) : Bool := m.unicode || !beyondAscii

/-- A set with what differs from it by case alone, where case does not count. -/
def fold (m : Mode) (r : Ranges) : Ranges :=
  if m.ignoreCase then if m.unicode then CaseFold.close r else CaseFold.closeAscii r else r

/-- A set that is negated as asked, if the mode allows that. -/
def close? (m : Mode) (negated : Bool) (r : Ranges) : Option Ranges :=
  if m.allows negated then some (if negated then (m.fold r).complement else m.fold r) else none

end Mode

/-! ## Sets -/

/-- The characters of a Perl class: words are made of letters, marks, digits, connectors and
joiners. -/
def Perl.set : Perl → CharSet
  | digit => Category.decimalNumber
  | space => Trait.whiteSpace
  | word =>
    Trait.alphabetic ∪ Category.mark ∪ Category.decimalNumber ∪
      Category.connectorPunctuation ∪ Trait.joinControl

/-- The ASCII characters of a Perl class. -/
def Perl.ascii : Perl → Ranges
  | digit => [(0x30, 0x39)]
  | space => [(0x9, 0xD), (0x20, 0x20)]
  | word => [(0x30, 0x39), (0x41, 0x5A), (0x5F, 0x5F), (0x61, 0x7A)]

def AsciiClass.ranges : AsciiClass → Ranges
  | alnum => [(0x30, 0x39), (0x41, 0x5A), (0x61, 0x7A)]
  | alpha => [(0x41, 0x5A), (0x61, 0x7A)]
  | ascii => [(0, 0x7F)]
  | blank => [(0x9, 0x9), (0x20, 0x20)]
  | cntrl => [(0, 0x1F), (0x7F, 0x7F)]
  | digit => [(0x30, 0x39)]
  | graph => [(0x21, 0x7E)]
  | lower => [(0x61, 0x7A)]
  | print => [(0x20, 0x7E)]
  | punct => [(0x21, 0x2F), (0x3A, 0x40), (0x5B, 0x60), (0x7B, 0x7E)]
  | space => [(0x9, 0xD), (0x20, 0x20)]
  | upper => [(0x41, 0x5A)]
  | word => [(0x30, 0x39), (0x41, 0x5A), (0x5F, 0x5F), (0x61, 0x7A)]
  | xdigit => [(0x30, 0x39), (0x41, 0x46), (0x61, 0x66)]

/-- Perl classes hold both cases of their letters as they are. -/
def Perl.ranges? (m : Mode) (negated : Bool) (c : Perl) : Option Ranges :=
  let r := if m.unicode then c.set.ranges else c.ascii
  if m.allows negated then some (if negated then r.complement else r) else none

def Property.ranges? (m : Mode) (negated : Bool) (p : Property) : Option Ranges :=
  if m.unicode then p.set?.bind fun s => m.close? negated s.ranges else none

/-- A character in brackets. -/
def Literal.code? (m : Mode) (l : Literal) : Option Nat :=
  if m.allows (0x80 ≤ l.char.toNat) then some l.char.toNat else none

def SetOp.apply : SetOp → Ranges → Ranges → Ranges
  | intersection => Ranges.inter
  | difference => Ranges.diff
  | symmetric => Ranges.symmDiff

mutual

/-- The characters of a class, if it is allowed in the mode. -/
def ClassSet.ranges? (m : Mode) : ClassSet → Option Ranges
  | .literal l => (l.code? m).map fun n => [(n, n)]
  | .range a b => do return [(← a.code? m, ← b.code? m)]
  | .ascii negated c => m.close? negated c.ranges
  | .perl negated c => c.ranges? m negated
  | .property negated p => p.ranges? m negated
  | .bracket negated inner => do m.close? negated (← inner.ranges? m)
  | .union items => (ClassSet.itemRanges? m items).map Ranges.ofList
  | .op o left right => do
    return o.apply (m.fold (← left.ranges? m)) (m.fold (← right.ranges? m))

/-- The ranges of the items of a class, in no order. -/
def ClassSet.itemRanges? (m : Mode) : List ClassSet → Option (List (Nat × Nat))
  | [] => some []
  | c :: cs => do return (← c.ranges? m) ++ (← ClassSet.itemRanges? m cs)

end

/-! ## Terms -/

/-- A character by itself, in all its cases where case does not count. Beyond ASCII, Unicode
mode is needed for the cases of a character and for one that was written as a byte. -/
def Literal.term? (m : Mode) (l : Literal) : Option Term :=
  if m.allows ((l.byte || m.ignoreCase) && 0x80 ≤ l.char.toNat) then
    some (if m.ignoreCase then .ofRanges (m.fold [(l.char.toNat, l.char.toNat)])
      else .literal [l.char])
  else none

/-- What a dot leaves out. -/
def Mode.lineEnds (m : Mode) : Ranges :=
  if m.dotNewline then [] else if m.crlf then [(0xA, 0xA), (0xD, 0xD)] else [(0xA, 0xA)]

/-- Outside of multi-line mode, lines begin and end with the text. -/
def Mode.assertion (m : Mode) (a : Assertion) : Term :=
  match a with
  | .lineStart => if m.multiLine then .assertion a m.crlf else .assertion .textStart false
  | .lineEnd => if m.multiLine then .assertion a m.crlf else .assertion .textEnd false
  | .textStart | .textEnd => .assertion a false
  | _ => .assertion a m.unicode

mutual

/-- What an expression matches and the mode after it, if it is allowed in the mode that it
stands in. -/
def Expression.term? (m : Mode) : Expression → Option (Term × Mode)
  | .empty => some (.empty, m)
  | .flags fs => some (.empty, m.switched fs)
  | .literal l => (l.term? m).map (·, m)
  | .dot => if m.unicode then some (.ofRanges m.lineEnds.complement, m) else none
  | .assertion a => some (m.assertion a, m)
  | .perl negated c => (c.ranges? m negated).map fun r => (.ofRanges r, m)
  | .property negated p => (p.ranges? m negated).map fun r => (.ofRanges r, m)
  | .bracket negated inner => do
    let r ← m.close? negated (← inner.ranges? m)
    return (.ofRanges r, m)
  | .repetition least most greedy e => do
    let (t, m') ← e.term? m
    return (.ofRepetition least most (greedy != m'.swapGreed) t, m')
  | .group captures fs e => do
    let (t, _) ← e.term? (m.switched fs)
    return (if captures then .capture t else t, m)
  | .alternation es => do
    let (ts, m') ← Expression.terms? m es
    return (.ofAlternatives ts, m')
  | .concat es => do
    let (ts, m') ← Expression.terms? m es
    return (.ofParts ts, m')

def Expression.terms? (m : Mode) : List Expression → Option (List Term × Mode)
  | [] => some ([], m)
  | e :: es => do
    let (t, m') ← e.term? m
    let (ts, m'') ← Expression.terms? m' es
    return (t :: ts, m'')

end

end FilterQuery.Regex
