import FilterQuery.Regex.Term
import Std.Data.HashMap

/-!
# Programs of regular expressions

A term is matched by a program whose states read bytes, branch, test assertions and mark
groups. Only the size of programs is worked out here: how many states there are, and what
the ways out of them take up. A count makes as many copies of what it repeats.

States for the bytes of non-ASCII sets are shared. Which ones are found again depends on a
table that keeps one state for each hash of its ways and so may forget some; the hashes
are those of the numbers that states have in the whole program.
-/
namespace FilterQuery.Regex

/-- The size of a program: its states, and the bytes of their ways. -/
structure Program where
  states : Nat := 0
  wayBytes : Nat := 0

namespace Program

/-- The bytes of one state, of a way for a range of bytes, and of a branch. -/
def stateSize : Nat := 32
def rangeSize : Nat := 8
def branchSize : Nat := 4

def size (p : Program) : Nat := p.states * stateSize + p.wayBytes

/-- A program has ten mebibytes at most. -/
def sizeLimit : Nat := 10 * Nat.pow 2 20

/-- Adds states and bytes of ways, if the program does not get too large. -/
def add (p : Program) (states : Nat) (wayBytes : Nat := 0) : Option Program :=
  let q : Program := ⟨p.states + states, p.wayBytes + wayBytes⟩
  if q.size ≤ sizeLimit then some q else none

/-- Adds copies, as long as the program does not get too large. -/
def copies (f : Program → Option Program) : Nat → Program → Option Program
  | 0, p => some p
  | n + 1, p =>
    match f p with
    | some p => copies f n p
    | none => none

/-- Adds a state that branches in two. -/
def fork (p : Program) : Option Program := p.add 1 (2 * branchSize)

/-! ## Sets -/

/-- A sequence of byte ranges. -/
abbrev Sequence := List (Nat × Nat)

/-- The hash of numbers, by way of xor and multiplication in 64 bits. -/
def hash (ns : List Nat) : Nat :=
  (ns.foldl (fun h n => (h ^^^ UInt64.ofNat n) * 1099511628211)
    (14695981039346656037 : UInt64)).toNat

/-- A program with the states that may be found again, by their hashes. -/
structure Sharing (α : Type) where
  program : Program
  table : Std.HashMap Nat (α × Nat) := ∅

/-- The number of the state for some numbers: one found again or else a new one, whose ways
take up so many bytes. -/
def Sharing.intern (s : Sharing (List Nat)) (slots wayBytes : Nat) (key : List Nat) :
    Option (Nat × Sharing (List Nat)) :=
  let slot := hash key % slots
  let fresh : Option (Nat × Sharing (List Nat)) := do
    let p ← s.program.add 1 wayBytes
    return (s.program.states, ⟨p, s.table.insert slot (key, s.program.states)⟩)
  match s.table[slot]? with
  | some (known, number) => if known = key then some (number, s) else fresh
  | none => fresh

/-- Sequences that follow each other and begin alike, without their beginnings. -/
def groups : List Sequence → List ((Nat × Nat) × List Sequence)
  | [] => []
  | [] :: ss => groups ss
  | (r :: rest) :: ss =>
    match groups ss with
    | (r', rests) :: gs =>
      if r = r' then (r, rest :: rests) :: gs else (r, [rest]) :: (r', rests) :: gs
    | [] => [(r, [rest])]

/-- The state that reads sequences of up to a length and goes on to a target. States with
the same ways are one. -/
def readForward (target : Nat) : Nat → List Sequence → Sharing (List Nat) →
    Option (Nat × Sharing (List Nat))
  | 0, _, s => some (target, s)
  | length + 1, ss, s =>
    if ss.all List.isEmpty then some (target, s)
    else do
      let (ways, s) ← (groups ss).foldlM (fun (ways, s) (range, rests) => do
        let (next, s) ← readForward target length rests s
        return (ways ++ [range.1, range.2, next], s)) (([] : List Nat), s)
      s.intern 10000 (ways.length / 3 * rangeSize) ways

/-- A state for each byte of a sequence, where each reads on to the one before it. -/
def readBackward (target : Nat) (sequence : Sequence) (s : Sharing (List Nat)) :
    Option (Nat × Sharing (List Nat)) :=
  sequence.foldlM (fun (next, s) range => s.intern 1000 0 [next, range.1, range.2]) (target, s)

/-- Adds what matches a set: two states for ASCII characters, and otherwise the states for
the bytes of its characters and their common target. -/
def addSet (backward : Bool) (r : Ranges) (p : Program) : Option Program :=
  if r.isAscii then p.add 2 (r.length * rangeSize)
  else if backward then do
    let target := p.states + 1
    let p ← p.add 2
    let s ← (Ranges.sequences r).foldlM (fun s sequence => do
      let (_, s) ← readBackward target sequence s
      return { s with program := ← s.program.add 0 branchSize }) { program := p }
    return s.program
  else do
    let target := p.states
    let p ← p.add 1
    let (_, s) ← readForward target 4 (Ranges.sequences r) { program := p }
    return s.program

/-! ## Literals -/

/-- The bytes of a text in the order in which they are read. -/
def bytesOf (backward : Bool) (text : List Char) : List UInt8 :=
  let bytes := text.flatMap String.utf8EncodeChar
  if backward then bytes.reverse else bytes

/-- Literals cut where one of them ends: those that go on, between the ends. -/
def cuts (literals : List (List UInt8)) : List (List (List UInt8)) :=
  literals.splitOnP List.isEmpty

/-- Adds the states of a tree that reads one of several literals. Where one ends, those
that come later do not share states with those that came before it. -/
def addTree : Nat → List (List UInt8) → Program → Option Program
  | 0, _, p => some p
  | length + 1, literals, p => do
    let literals :=
      match literals with
      | [] :: rest => [] :: rest.dropWhile List.isEmpty
      | all => all
    let ends := literals.countP List.isEmpty
    let chunks := (cuts literals).filter (!·.isEmpty)
    let p ← chunks.foldlM (fun p chunk => do
      let firsts := (chunk.filterMap List.head?).eraseDups
      let p ← firsts.foldlM (fun p b =>
        let rests := (chunk.filter fun l => l.head? == some b).map List.tail
        if rests.all List.isEmpty then some p else addTree length rests p) p
      p.add 1 (if firsts.length = 1 then 0 else firsts.length * rangeSize)) p
    p.add 1 ((chunks.length + ends) * branchSize)

def addLiterals (backward : Bool) (texts : List (List Char)) (p : Program) : Option Program := do
  let literals := texts.map (bytesOf backward)
  addTree ((literals.map List.length).foldl max 0) literals (← p.add 1)

end Program

/-! ## Terms -/

namespace Term

def text? : Term → Option (List Char)
  | literal cs => some cs
  | _ => none

mutual

/-- Adds what matches a term. Backward, the last part comes first and groups leave no trace. -/
def addTo (backward : Bool) : Term → Program → Option Program
  | empty, p | assertion .., p => p.add 1
  | literal cs, p => p.add (textLength cs)
  | set r, p => p.addSet backward r
  | capture t, p => do
    if backward then t.addTo backward p
    else (← t.addTo backward (← p.add 1)).add 1
  | repetition least most _ t, p =>
    let copy := t.addTo backward
    match least, most with
    | 0, some 1 => do (← copy (← p.fork)).add 1
    | 0, none => do
      if t.minLength.any (0 < ·) then copy (← p.fork)
      else (← (← (← copy p).fork).fork).add 1
    | least, none => do (← Program.copies copy least p).fork
    | least, some most =>
      if least = most then Program.copies copy least p
      else do
        let p ← if least = 0 then p.add 1 else Program.copies copy least p
        Program.copies (fun p => do copy (← p.fork)) (most - least) (← p.add 1)
  | concat ts, p => addParts backward ts p
  | alternation ts, p =>
    match ts.mapM text? with
    | some texts => p.addLiterals backward texts
    | none => addAlternatives backward 0 ts p

def addParts (backward : Bool) : List Term → Program → Option Program
  | [], p => some p
  | t :: ts, p => do
    if backward then t.addTo backward (← addParts backward ts p)
    else addParts backward ts (← t.addTo backward p)

/-- Adds alternatives; the states where they begin and end come after the second of them. -/
def addAlternatives (backward : Bool) (count : Nat) : List Term → Program → Option Program
  | [], p => some p
  | t :: ts, p => do
    let p ← t.addTo backward p
    let p ← p.add (if count = 1 then 2 else 0) Program.branchSize
    addAlternatives backward (count + 1) ts p

end

/-- The program that finds a term anywhere in a text. Unless all matches are anchored, it
begins with a loop over the bytes that may precede one. -/
def program? (backward : Bool) (t : Term) : Option Program := do
  let p ←
    if t.isAnchored backward then Program.add {} 1
    else Program.add {} 3 (Program.rangeSize + 2 * Program.branchSize)
  let p ← (capture t).addTo backward p
  p.add 1

end Term

end FilterQuery.Regex
