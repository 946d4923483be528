import FilterQuery.Regex.Expression
import FilterQuery.Regex.Ranges

/-!
# Expressions in their simplest form

What an expression matches is told without flags and without groups that do not capture.
Neighbouring literals are one literal, alternatives that are single characters or sets are
one set, and parts that all alternatives begin with stand before them.
-/
namespace FilterQuery.Regex

inductive Term
  | empty
  | literal (text : List Char)
  | set (r : Ranges)
  /-- An assertion, with what the flags had to say on its line ends or on what a word is. -/
  | assertion (a : Assertion) (wide : Bool)
  | capture (t : Term)
  | repetition (least : Nat) (most : Option Nat) (greedy : Bool) (t : Term)
  | concat (ts : List Term)
  | alternation (ts : List Term)

namespace Term

/-! ## Lengths -/

/-- How many bytes a code point is encoded in. -/
def width (code : Nat) : Nat :=
  if code < 0x80 then 1 else if code < 0x800 then 2 else if code < 0x10000 then 3 else 4

/-- How many bytes a text is encoded in. -/
def textLength (cs : List Char) : Nat := cs.foldl (fun n c => n + c.utf8Size) 0

def sum (ns : List (Option Nat)) : Option Nat := (ns.mapM id).map fun ks => ks.foldl (· + ·) 0

mutual

/-- The bytes of the shortest match, unless there may be no match at all. -/
def minLength : Term → Option Nat
  | empty | assertion .. => some 0
  | literal cs => some (textLength cs)
  | set r => r.head?.map fun p => width p.1
  | capture t => t.minLength
  | repetition least _ _ t => t.minLength.map (· * least)
  | concat ts => sum (minLengths ts)
  | alternation ts => ((minLengths ts).mapM id).bind List.min?

def minLengths : List Term → List (Option Nat)
  | [] => []
  | t :: ts => t.minLength :: minLengths ts

end

mutual

/-- The bytes of the longest match, if there is one. -/
def maxLength : Term → Option Nat
  | empty | assertion .. => some 0
  | literal cs => some (textLength cs)
  | set r => r.getLast?.map fun p => width p.2
  | capture t => t.maxLength
  | repetition _ most _ t => do return (← most) * (← t.maxLength)
  | concat ts => sum (maxLengths ts)
  | alternation ts => ((maxLengths ts).mapM id).bind List.max?

def maxLengths : List Term → List (Option Nat)
  | [] => []
  | t :: ts => t.maxLength :: maxLengths ts

end

/-- Whether no match has any length. -/
def isZeroWidth (t : Term) : Bool := t.maxLength == some 0

/-! ## Anchors -/

mutual

/-- Whether every match begins where the text begins or, backward, ends where it ends. -/
def isAnchored (backward : Bool) : Term → Bool
  | assertion .textStart _ => !backward
  | assertion .textEnd _ => backward
  | capture t => t.isAnchored backward
  | repetition least _ _ t => 0 < least && t.isAnchored backward
  | concat ts => anchors backward ts
  | alternation ts => areAnchored backward ts
  | _ => false

/-- Whether a part that nothing but parts without length precedes, or follows, is anchored. -/
def anchors (backward : Bool) : List Term → Bool
  | [] => false
  | t :: ts =>
    if backward then anchors backward ts || ts.all isZeroWidth && t.isAnchored backward
    else t.isAnchored backward || t.isZeroWidth && anchors backward ts

def areAnchored (backward : Bool) : List Term → Bool
  | [] => true
  | t :: ts => t.isAnchored backward && areAnchored backward ts

end

/-! ## Equality -/

mutual

/-- Whether two terms are written alike. No two groups that capture are. -/
def isSame : Term → Term → Bool
  | empty, empty => true
  | literal a, literal b => a == b
  | set r, set s => r == s
  | assertion a wide, assertion b wide' => a == b && wide == wide'
  | repetition least most greedy t, repetition least' most' greedy' t' =>
    least == least' && most == most' && greedy == greedy' && t.isSame t'
  | concat ts, concat us | alternation ts, alternation us => areSame ts us
  | _, _ => false

def areSame : List Term → List Term → Bool
  | [], [] => true
  | t :: ts, u :: us => t.isSame u && areSame ts us
  | _, _ => false

end

/-! ## Building terms -/

/-- The term of a set; for a single character that is a literal. -/
def ofRanges (r : Ranges) : Term :=
  match r.diff Ranges.surrogates with
  | [(a, b)] => if a = b then literal [Char.ofNat a] else set [(a, b)]
  | r => set r

/-- What has no length is repeated once at most. -/
def ofRepetition (least : Nat) (most : Option Nat) (greedy : Bool) (t : Term) : Term :=
  let least := if t.isZeroWidth then min least 1 else least
  let most := if t.isZeroWidth then some (min (most.getD 1) 1) else most
  if least = 0 ∧ most = some 0 then empty
  else if least = 1 ∧ most = some 1 then t
  else repetition least most greedy t

/-- The parts that a term adds to a concatenation. -/
def parts : Term → List Term
  | empty => []
  | concat ts => ts
  | t => [t]

/-- Puts a part before others; literals that meet are joined. -/
def prepend : Term → List Term → List Term
  | literal a, literal b :: ts => literal (a ++ b) :: ts
  | t, ts => t :: ts

def ofParts (ts : List Term) : Term :=
  match (ts.flatMap parts).foldr prepend [] with
  | [] => empty
  | [t] => t
  | ts => concat ts

/-- The alternatives that a term adds to others. -/
def alternatives : Term → List Term
  | alternation ts => ts
  | t => [t]

/-- The character that is all of a literal. -/
def character? : Term → Option (Nat × Nat)
  | literal [c] => some (c.toNat, c.toNat)
  | _ => none

def ranges? : Term → Option Ranges
  | set r => some r
  | _ => none

/-- Alternatives joined to a set if they are all characters, or all sets. -/
def joined (ts : List Term) : Term :=
  match ts.flatMap alternatives with
  | [t] => t
  | ts =>
    match ts.mapM character?, ts.mapM ranges? with
    | some r, _ => ofRanges (Ranges.ofList r)
    | none, some rs => ofRanges (Ranges.ofList rs.flatten)
    | none, none => alternation ts

/-- How many parts two concatenations have in common at their beginnings. -/
def sharedCount : List Term → List Term → Nat
  | t :: ts, u :: us => if t.isSame u then sharedCount ts us + 1 else 0
  | _, _ => 0

def concat? : Term → Option (List Term)
  | concat ts => some ts
  | _ => none

def ofAlternatives (ts : List Term) : Term :=
  match (ts.flatMap alternatives).mapM concat? with
  | some (first :: second :: more) =>
    let count := ((second :: more).map (sharedCount first)).foldl min first.length
    if count = 0 then joined ts
    else
      let rests := (first :: second :: more).map fun us => ofParts (us.drop count)
      ofParts (first.take count ++ [joined rests])
  | _ => joined ts

end Term

end FilterQuery.Regex
