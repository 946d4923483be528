import FilterQuery.Yaml.Cursor

/-!
# Block scalars

A block scalar begins with a bar or an angle bracket and takes in the indented lines that
follow. Literal blocks keep their line breaks; folded ones join lines that do not begin
with blanks. What becomes of the breaks at the end is told by a sign in the header.
-/
namespace FilterQuery.Yaml.Block

def scanning : String := "while scanning a block scalar"

/-- What becomes of the line breaks at the end: one is kept, none or all. -/
inductive Chomp
  | clip
  | strip
  | keep
  deriving DecidableEq, Repr

structure Header where
  chomp : Chomp := .clip
  /-- The columns that the block is indented by, if told. -/
  increment : Option Nat := none

def chompOf? (c : Char) : Option Chomp :=
  if c = '+' then some .keep else if c = '-' then some .strip else none

/-- A digit that tells the indentation, if one stands here. -/
def readIncrement (start : Mark) (c : Cursor) : Except Flaw (Option Nat × Cursor) :=
  match c.rest with
  | d :: _ =>
    if d.isDigit then
      if d = '0' then c.flaw scanning start "found an indentation indicator equal to 0"
      else .ok (some (d.toNat - '0'.toNat), c.forward 1)
    else .ok (none, c)
  | [] => .ok (none, c)

def readChomp (c : Cursor) : Option Chomp × Cursor :=
  match c.rest.head?.bind chompOf? with
  | some chomp => (some chomp, c.forward 1)
  | none => (none, c)

/-- The two signs of a header, in either order. -/
def readHeader (start : Mark) (c : Cursor) : Except Flaw (Header × Cursor) :=
  match readChomp c with
  | (some chomp, c') => do
    let (increment, c'') ← readIncrement start c'
    return (⟨chomp, increment⟩, c'')
  | (none, _) => do
    let (increment, c') ← readIncrement start c
    if increment.isSome then
      let (chomp, c'') := readChomp c'
      return (⟨chomp.getD .clip, increment⟩, c'')
    else return ({}, c')

/-- Passes blanks that belong to the indentation, and empty lines. Without a known
indentation all blanks at the beginning of a line do; `deepest` is the largest column
reached. -/
def readEmpty (indent : Option Nat) (start : Mark) (breaks : List Char) (deepest : Nat)
    (m : Mark) : List Char → Except Flaw (List Char × Nat × Cursor)
  | [] => .ok (breaks, max deepest m.column, ⟨[], m⟩)
  | '\r' :: '\n' :: r =>
    readEmpty indent start (breaks ++ ['\n']) (max deepest m.column) (m.nextLine 2) r
  | c :: r =>
    let within := indent.all (m.column < ·)
    if c = ' ' ∧ within then readEmpty indent start breaks deepest (m.past c) r
    else if c = '\t' ∧ within then
      Cursor.flaw ⟨c :: r, m⟩ scanning start
        "found a tab character where an indentation space is expected"
    else if isBreak c then
      readEmpty indent start (breaks ++ breakText c) (max deepest m.column)
        (m.nextLine c.utf8Size) r
    else .ok (breaks, max deepest m.column, ⟨c :: r, m⟩)

/-- The lines read so far: their text, the break after the last one, the empty lines after
that, and whether the last line began with a blank. -/
structure Lines where
  text : List Char := []
  lastBreak : List Char := []
  empties : List Char := []
  blank : Bool := false

/-- The text with what stands between the last line and the next. -/
def Lines.joined (folded : Bool) (l : Lines) (nextBlank : Bool) : List Char :=
  if folded ∧ l.lastBreak = ['\n'] ∧ ¬l.blank ∧ ¬nextBlank then
    l.text ++ (if l.empties.isEmpty then [' '] else l.empties)
  else l.text ++ l.lastBreak ++ l.empties

/-- Reads the lines at column `indent`. -/
def readLines (folded : Bool) (indent : Nat) (start : Mark) : Nat → Lines → Cursor →
    Except Flaw (Lines × Cursor)
  | 0, l, c => .ok (l, c)
  | fuel + 1, l, c =>
    if c.mark.column = indent ∧ ¬c.rest.isEmpty then do
      let blank := c.rest.head?.any isBlank
      let (line, c') := c.takeWhile fun d => !isBreak d
      let (lastBreak, c'') := c'.readBreak
      let (empties, _, next) ← readEmpty (some indent) start [] 0 c''.mark c''.rest
      readLines folded indent start fuel
        ⟨l.joined folded blank ++ line, lastBreak, empties, blank⟩ next
    else .ok (l, c)

/-- The text in the end. -/
def Lines.chomped (l : Lines) : Chomp → List Char
  | .strip => l.text
  | .clip => l.text ++ l.lastBreak
  | .keep => l.text ++ l.lastBreak ++ l.empties

/-- The scalar that starts here with its sign; `parent` is the column of the block around
it, if there is one. -/
def read (folded : Bool) (parent : Option Nat) (c : Cursor) : Except Flaw (String × Cursor) := do
  let start := c.mark
  let (header, c) ← readHeader start (c.forward 1)
  let c := (c.skipWhile isBlank).skipComment
  if ¬atLineEnd c.rest then c.flaw scanning start "did not find expected comment or line break"
  else
    let c := c.readBreak.2
    let told := header.increment.map (parent.getD 0 + ·)
    let (empties, deepest, c) ← readEmpty told start [] 0 c.mark c.rest
    let indent := told.getD (max deepest (max 1 ((parent.map (· + 1)).getD 0)))
    let (lines, c) ← readLines folded indent start (c.rest.length + 1) { empties } c
    return (String.ofList (lines.chomped header.chomp), c)

end FilterQuery.Yaml.Block
