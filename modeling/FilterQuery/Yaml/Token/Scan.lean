import FilterQuery.Yaml.Token.Block
import FilterQuery.Yaml.Token.Label
import FilterQuery.Yaml.Token.Plain
import FilterQuery.Yaml.Token.Quoted

/-!
# From a text to its tokens

A scalar or a bracket turns out to be the key of an entry only when a colon follows on
the same line. Until that is settled, tokens wait in a queue, so that the token for the
key, and the one for the block that the entry begins, can be put before them.
-/
namespace FilterQuery.Yaml

/-- A token that may turn out to begin a key. -/
structure PossibleKey where
  /-- Whether a colon has to follow, as nothing else may stand here. -/
  required : Bool
  /-- The number of the token, counted from the start of the text. -/
  number : Nat
  mark : Mark
  deriving Inhabited

/-- How far a text has been cut into tokens. -/
structure Scan where
  cursor : Cursor
  /-- The column of the block that we are in, and of those around it. -/
  indent : Option Nat := none
  outerIndents : List (Option Nat) := []
  keyAllowed : Bool := true
  /-- What may become a key on this level of brackets, and on those around it. -/
  key : Option PossibleKey := none
  outerKeys : List (Option PossibleKey) := []
  /-- The tokens that wait, and the number of those that do no longer. -/
  queue : List Token := []
  passed : Nat := 0
  ended : Bool := false

namespace Scan

def simpleKey : String := "while scanning a simple key"

def noColon : String := "could not find expected ':'"

def inFlow (s : Scan) : Bool := !s.outerKeys.isEmpty

def mark (s : Scan) : Mark := s.cursor.mark

def push (s : Scan) (t : Token) : Scan := { s with queue := s.queue ++ [t] }

/-- Puts a token in the queue before the one of that number. -/
def insert (s : Scan) (number : Nat) (t : Token) : Scan :=
  let n := number - s.passed
  { s with queue := s.queue.take n ++ t :: s.queue.drop n }

/-- Adds the token of the next `n` characters. -/
def sign (s : Scan) (n : Nat) (k : Token.Kind) : Scan :=
  let c := s.cursor.forward n
  { s.push ⟨k, s.mark, c.mark⟩ with cursor := c }

/-! ## Keys -/

/-- A key has to end on the line it began on, within 1024 bytes. -/
def isStale (m : Mark) (k : PossibleKey) : Bool :=
  k.mark.line < m.line || k.mark.offset + 1024 < m.offset

def freshKey? (m : Mark) : Option PossibleKey → Except Flaw (Option PossibleKey)
  | none => .ok none
  | some k =>
    if isStale m k then
      if k.required then .error (.problem noColon m (some (simpleKey, k.mark))) else .ok none
    else .ok (some k)

/-- Gives up what can no longer become a key, outer levels first. -/
def dropStale (s : Scan) : Except Flaw Scan := do
  let outer ← s.outerKeys.reverse.mapM (freshKey? s.mark)
  let key ← freshKey? s.mark s.key
  return { s with key, outerKeys := outer.reverse }

/-- Gives up the possible key of this level. -/
def dropKey (s : Scan) : Except Flaw Scan :=
  match s.key with
  | some k =>
    if k.required then s.cursor.flaw simpleKey k.mark noColon else .ok { s with key := none }
  | none => .ok s

/-- The next token may become a key, if one may begin here. -/
def saveKey (s : Scan) : Except Flaw Scan :=
  if s.keyAllowed then do
    let required := !s.inFlow && s.indent == some s.mark.column
    let s ← s.dropKey
    return { s with key := some ⟨required, s.passed + s.queue.length, s.mark⟩ }
  else .ok s

/-! ## Blocks -/

/-- Begins a block at a column if that lies further right; its token is put before the one
of that number, or last. -/
def rollIndent (s : Scan) (column : Nat) (number : Option Nat) (k : Token.Kind) (m : Mark) :
    Scan :=
  if s.inFlow ∨ ¬s.indent.all (· < column) then s
  else
    let s := { s with indent := some column, outerIndents := s.indent :: s.outerIndents }
    let t : Token := ⟨k, m, m⟩
    match number with
    | some n => s.insert n t
    | none => s.push t

/-- Ends the blocks that lie further right than a column. -/
def unrollBlocks (column : Option Nat) (m : Mark) :
    Option Nat → List (Option Nat) → List Token × Option Nat × List (Option Nat)
  | none, outer => ([], none, outer)
  | some i, outer =>
    if column.all (· < i) then
      match outer with
      | [] => ([⟨.blockEnd, m, m⟩], none, [])
      | o :: outer =>
        let (ends, indent, outer') := unrollBlocks column m o outer
        (⟨.blockEnd, m, m⟩ :: ends, indent, outer')
    else ([], some i, outer)

def unrollIndent (s : Scan) (column : Option Nat) : Scan :=
  if s.inFlow then s
  else
    let (ends, indent, outer) := unrollBlocks column s.mark s.indent s.outerIndents
    { s with queue := s.queue ++ ends, indent, outerIndents := outer }

/-! ## Blanks and comments -/

/-- A byte order mark may begin a line; it takes up the first column. -/
def skipOrderMark (c : Cursor) : Cursor :=
  if c.mark.column = 0 ∧ c.rest.head? = some '\ufeff' then c.forward 1 else c

/-- Passes blanks, comments and line breaks. Outside of brackets a new line may begin a
key, and tabs do not count as blanks where a key may begin. -/
def skipGap : Nat → Scan → Scan
  | 0, s => s
  | fuel + 1, s =>
    let tabs := s.inFlow || !s.keyAllowed
    let c := ((skipOrderMark s.cursor).skipWhile fun d => d = ' ' || tabs && d = '\t').skipComment
    match c.readBreak with
    | ([], _) => { s with cursor := c }
    | (_, c') => skipGap fuel { s with cursor := c', keyAllowed := s.keyAllowed || !s.inFlow }

def toNextToken (s : Scan) : Scan := skipGap (s.cursor.rest.length + 1) s

/-! ## Tokens -/

def readEnd (s : Scan) : Except Flaw Scan := do
  let m := s.mark
  let m' := if m.column = 0 then m else ⟨m.offset, m.line + 1, 0⟩
  let s := { s with cursor := ⟨[], m'⟩ }
  let s ← (s.unrollIndent none).dropKey
  return { s.push ⟨.streamEnd, m', m'⟩ with keyAllowed := false, ended := true }

def readDirective (s : Scan) : Except Flaw Scan := do
  let s ← (s.unrollIndent none).dropKey
  let (k, c) ← Label.readDirective s.cursor
  return { s.push ⟨k, s.mark, c.mark⟩ with cursor := c, keyAllowed := false }

def readDocumentSign (s : Scan) (k : Token.Kind) : Except Flaw Scan := do
  let s ← (s.unrollIndent none).dropKey
  return { s.sign 3 k with keyAllowed := false }

def readFlowStart (s : Scan) (k : Token.Kind) : Except Flaw Scan := do
  let s ← s.saveKey
  return { s.sign 1 k with keyAllowed := true, key := none, outerKeys := s.key :: s.outerKeys }

def readFlowEnd (s : Scan) (k : Token.Kind) : Except Flaw Scan := do
  let s ← s.dropKey
  let s :=
    match s.outerKeys with
    | [] => s
    | key :: outer => { s with key, outerKeys := outer }
  return { s.sign 1 k with keyAllowed := false }

def readFlowEntry (s : Scan) : Except Flaw Scan := do
  let s ← s.dropKey
  return { s.sign 1 .flowEntry with keyAllowed := true }

def readBlockEntry (s : Scan) : Except Flaw Scan := do
  if ¬s.inFlow ∧ ¬s.keyAllowed then
    s.cursor.bareFlaw "block sequence entries are not allowed in this context"
  else
    let s ← (s.rollIndent s.mark.column none .blockSequenceStart s.mark).dropKey
    return { s.sign 1 .blockEntry with keyAllowed := true }

def readKey (s : Scan) : Except Flaw Scan := do
  if ¬s.inFlow ∧ ¬s.keyAllowed then
    s.cursor.bareFlaw "mapping keys are not allowed in this context"
  else
    let s ← (s.rollIndent s.mark.column none .blockMappingStart s.mark).dropKey
    return { s.sign 1 .key with keyAllowed := !s.inFlow }

def readValue (s : Scan) : Except Flaw Scan :=
  match s.key with
  | some k =>
    let s := s.insert k.number ⟨.key, k.mark, k.mark⟩
    let s := s.rollIndent k.mark.column (some k.number) .blockMappingStart k.mark
    .ok { s.sign 1 .value with key := none, keyAllowed := false }
  | none =>
    if ¬s.inFlow ∧ ¬s.keyAllowed then
      s.cursor.bareFlaw "mapping values are not allowed in this context"
    else
      let s := s.rollIndent s.mark.column none .blockMappingStart s.mark
      .ok { s.sign 1 .value with keyAllowed := !s.inFlow }

def readAnchor (s : Scan) (isAlias : Bool) : Except Flaw Scan := do
  let s ← s.saveKey
  let (name, c) ← Label.readAnchor isAlias s.cursor
  let k := if isAlias then Token.Kind.reference name else .anchor name
  return { s.push ⟨k, s.mark, c.mark⟩ with cursor := c, keyAllowed := false }

def readTag (s : Scan) : Except Flaw Scan := do
  let s ← s.saveKey
  let ((handle, suffix), c) ← Label.readTag s.inFlow s.cursor
  return { s.push ⟨.tag handle suffix, s.mark, c.mark⟩ with cursor := c, keyAllowed := false }

def readBlockScalar (s : Scan) (folded : Bool) : Except Flaw Scan := do
  let s ← s.dropKey
  let (text, c) ← Block.read folded s.indent s.cursor
  let style := if folded then Style.folded else .literal
  return { s.push ⟨.scalar style text, s.mark, c.mark⟩ with cursor := c, keyAllowed := true }

def readQuotedScalar (s : Scan) (single : Bool) : Except Flaw Scan := do
  let s ← s.saveKey
  let (text, c) ← Quoted.read single s.cursor
  let style := if single then Style.singleQuoted else .doubleQuoted
  return { s.push ⟨.scalar style text, s.mark, c.mark⟩ with cursor := c, keyAllowed := false }

/-- A plain scalar that went on to a new line leaves room for a key there. -/
def readPlainScalar (s : Scan) : Except Flaw Scan := do
  let s ← s.saveKey
  let p ← Plain.read s.inFlow ((s.indent.map (· + 1)).getD 0) s.cursor
  let t : Token := ⟨.scalar .plain (String.ofList p.text), s.mark, p.stop⟩
  return { s.push t with cursor := p.cursor, keyAllowed := p.gap.broken }

/-- Signs with which a plain scalar does not begin. -/
def isIndicator (c : Char) : Bool := "-?:,[]\x7b\x7d#&*!|>'\"%@`".toList.contains c

/-- Whether a plain scalar begins here. -/
def beginsPlain (inFlow : Bool) (c : Char) (r : List Char) : Bool :=
  !(isBlank c || isBreak c || isIndicator c) || c = '-' && !r.head?.any isBlank ||
    !inFlow && (c = '?' || c = ':') && !atWordEnd r

/-- Reads the token that begins here. -/
def readToken (s : Scan) : Except Flaw Scan :=
  match s.cursor.rest with
  | [] => s.readEnd
  | c :: r =>
    if s.mark.column = 0 ∧ c = '%' then s.readDirective
    else if s.cursor.atDocumentSign '-' then s.readDocumentSign .documentStart
    else if s.cursor.atDocumentSign '.' then s.readDocumentSign .documentEnd
    else if c = '[' then s.readFlowStart .flowSequenceStart
    else if c = '\x7b' then s.readFlowStart .flowMappingStart
    else if c = ']' then s.readFlowEnd .flowSequenceEnd
    else if c = '\x7d' then s.readFlowEnd .flowMappingEnd
    else if c = ',' then s.readFlowEntry
    else if c = '-' ∧ atWordEnd r then s.readBlockEntry
    else if c = '?' ∧ (s.inFlow ∨ atWordEnd r) then s.readKey
    else if c = ':' ∧ (s.inFlow ∨ atWordEnd r) then s.readValue
    else if c = '*' then s.readAnchor true
    else if c = '&' then s.readAnchor false
    else if c = '!' then s.readTag
    else if c = '|' ∧ ¬s.inFlow then s.readBlockScalar false
    else if c = '>' ∧ ¬s.inFlow then s.readBlockScalar true
    else if c = '\'' then s.readQuotedScalar true
    else if c = '"' then s.readQuotedScalar false
    else if beginsPlain s.inFlow c r then s.readPlainScalar
    else
      s.cursor.flaw "while scanning for the next token" s.mark
        "found character that cannot start any token"

/-- Reads the next token, after the ends of the blocks that it does not belong to. -/
def step (s : Scan) : Except Flaw Scan := do
  let s ← s.toNextToken.dropStale
  (s.unrollIndent (some s.mark.column)).readToken

/-! ## Settled tokens -/

/-- The number of the first token that may become a key. -/
def firstKey? (s : Scan) : Option Nat :=
  ((s.outerKeys ++ [s.key]).filterMap fun k => k.map (·.number)).min?

/-- Takes the tokens from the queue that no longer wait. -/
def settle (s : Scan) : Except Flaw (List Token × Scan) :=
  if s.queue.isEmpty then .ok ([], s)
  else do
    let s ← s.dropStale
    let count :=
      match s.firstKey? with
      | some n => if s.ended then s.queue.length else min (n - s.passed) s.queue.length
      | none => s.queue.length
    return (s.queue.take count,
      { s with queue := s.queue.drop count, passed := s.passed + count })

/-- Reads tokens to the end of the text or up to a flaw; every step passes a character. -/
def run : Nat → Scan → List Token × Option Flaw
  | 0, _ => ([], none)
  | fuel + 1, s =>
    match s.step with
    | .error f => ([], some f)
    | .ok s =>
      match s.settle with
      | .error f => ([], some f)
      | .ok (ts, s) =>
        if s.ended then (ts, none)
        else
          let (more, f) := run fuel s
          (ts ++ more, f)

end Scan

/-- Whether a text may hold a character. -/
def isTextChar (c : Char) : Bool :=
  c = '\t' || c = '\n' || c = '\r' || c = '\x85' ||
    (' ' ≤ c && c ≤ '~') || ('\xa0' ≤ c && c ≤ '\ufffd') || 0x10000 ≤ c.toNat

/-- The first character that no text may hold, by its place in bytes. -/
def badCharacter? (offset : Nat) : List Char → Option Nat
  | [] => none
  | c :: r => if isTextChar c then badCharacter? (offset + c.utf8Size) r else some offset

/-- The tokens of a text up to its end or its first flaw. -/
def Token.ofText (text : List Char) : List Token × Option Flaw :=
  match badCharacter? 0 text with
  | some offset => ([], some (.badCharacter offset))
  | none => Scan.run (text.length + 2) { cursor := ⟨text, {}⟩ }

end FilterQuery.Yaml
