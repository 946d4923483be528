import FilterQuery.Yaml.Event
import FilterQuery.Yaml.Token.Scan

/-!
# From tokens to events

What may follow is kept as a stack of stages. A node is a scalar, an alias, or a sequence
or mapping whose parts have stages of their own; where a node is missing that may be left
out, an empty scalar stands for it.
-/
namespace FilterQuery.Yaml

/-- What is expected next. Where a sequence or mapping began is kept for messages. -/
inductive Stage
  | documentStart (implicit : Bool)
  | documentContent
  | documentEnd
  | blockNode
  | blockSequenceEntry (opened : Mark)
  | indentlessEntry
  | blockMappingKey (opened : Mark)
  | blockMappingValue (opened : Mark)
  | flowSequenceEntry (first : Bool) (opened : Mark)
  | pairKey (opened : Mark)
  | pairValue (opened : Mark)
  | pairEnd (opened : Mark)
  | flowMappingKey (first : Bool) (opened : Mark)
  | flowMappingValue (opened : Mark)
  | flowMappingNoValue (opened : Mark)
  | finished

/-- How far tokens have been read as events. -/
structure Reading where
  stage : Stage := .documentStart true
  outer : List Stage := []
  tokens : List Token
  /-- What keeps the tokens from going on, if they have come to their end. -/
  broken : Flaw
  /-- What the handles of tags expand to, as directives said. -/
  handles : List (String × Tag) := []

namespace Reading

abbrev Outcome := Except Flaw (Event.Placed String × Reading)

def peek (p : Reading) : Except Flaw Token :=
  match p.tokens with
  | t :: _ => .ok t
  | [] => .error p.broken

def skip (p : Reading) : Reading := { p with tokens := p.tokens.tail }

/-- Tells an event and goes on at a stage. -/
def tell (p : Reading) (e : Event String) (m : Mark) (next : Stage) : Outcome :=
  .ok (⟨e, m⟩, { p with stage := next })

/-- Tells an event and goes on with what is around. -/
def tellLast (p : Reading) (e : Event String) (m : Mark) : Outcome :=
  match p.outer with
  | s :: outer => .ok (⟨e, m⟩, { p with stage := s, outer })
  | [] => .ok (⟨e, m⟩, { p with stage := .finished })

def emptyScalar (anchor : Option String) (tag : Option Tag) : Event String :=
  .scalar anchor ⟨.plain, "", tag⟩

/-- Tells that a node was left out. -/
def tellEmpty (p : Reading) (m : Mark) (next : Stage) : Outcome :=
  p.tell (emptyScalar none none) m next

def flaw {α : Type} (what : String) (m : Mark) (context : String) (start : Mark) :
    Except Flaw α :=
  .error (.problem what m (some (context, start)))

/-! ## Nodes -/

/-- What precedes the content of a node. -/
structure Properties where
  start : Mark
  anchor : Option String := none
  tag : Option (String × Tag × Mark) := none

/-- Reads an anchor and a tag, in either order. -/
def readProperties (p : Reading) : Except Flaw (Properties × Reading) := do
  let t ← p.peek
  match t.kind with
  | .anchor name => do
    let p := p.skip
    let u ← p.peek
    match u.kind with
    | .tag handle suffix => return (⟨t.start, some name, some (handle, suffix, u.start)⟩, p.skip)
    | _ => return (⟨t.start, some name, none⟩, p)
  | .tag handle suffix => do
    let p := p.skip
    let u ← p.peek
    match u.kind with
    | .anchor name => return (⟨t.start, some name, some (handle, suffix, t.start)⟩, p.skip)
    | _ => return (⟨t.start, none, some (handle, suffix, t.start)⟩, p)
  | _ => return (⟨t.start, none, none⟩, p)

/-- The handles that need no directive. -/
def standardHandles : List (String × Tag) := [("!", .bang), ("!!", .core)]

/-- The tag in full. -/
def expand (p : Reading) (start : Mark) : Option (String × Tag × Mark) →
    Except Flaw (Option Tag)
  | none => .ok none
  | some (handle, suffix, m) =>
    if handle.isEmpty then .ok (some suffix)
    else
      match (p.handles ++ standardHandles).lookup handle with
      | some expansion => .ok (some (expansion.append suffix))
      | none => flaw "found undefined tag handle" m "while parsing a node" start

/-- Reads a node. In a block, indentation may begin one; a sequence that is a value or a key
need not be indented. -/
def readNode (p : Reading) (block indentless : Bool) : Outcome := do
  let t ← p.peek
  match t.kind with
  | .reference name => p.skip.tellLast (.reference name) t.start
  | _ => do
    let (props, p) ← p.readProperties
    let tag ← p.expand props.start props.tag
    let t ← p.peek
    let sequence := Event.sequenceStart props.anchor tag
    let mapping := Event.mappingStart props.anchor tag
    match t.kind with
    | .scalar style text =>
      p.skip.tellLast (.scalar props.anchor ⟨style, text, tag⟩) props.start
    | .flowSequenceStart => p.skip.tell sequence props.start (.flowSequenceEntry true t.start)
    | .flowMappingStart => p.skip.tell mapping props.start (.flowMappingKey true t.start)
    | k =>
      if indentless ∧ k = .blockEntry then p.tell sequence props.start .indentlessEntry
      else if block ∧ k = .blockSequenceStart then
        p.skip.tell sequence props.start (.blockSequenceEntry t.start)
      else if block ∧ k = .blockMappingStart then
        p.skip.tell mapping props.start (.blockMappingKey t.start)
      else if props.anchor.isSome ∨ tag.isSome then
        p.tellLast (emptyScalar props.anchor tag) props.start
      else
        flaw "did not find expected node content" t.start
          (if block then "while parsing a block node" else "while parsing a flow node") props.start

/-- Reads a node, after which a stage comes. -/
def readNodeThen (p : Reading) (next : Stage) (block indentless : Bool) : Outcome :=
  readNode { p with outer := next :: p.outer } block indentless

/-- Reads a node unless one of some tokens shows that it was left out. -/
def readOptional (p : Reading) (m : Mark) (ends : List Token.Kind) (next : Stage)
    (block indentless : Bool) : Outcome := do
  let t ← p.peek
  if ends.contains t.kind then p.tellEmpty m next else p.readNodeThen next block indentless

/-! ## Documents -/

def incompatible (major minor : Nat) : Bool := major != 1 || (minor != 1 && minor != 2)

/-- Reads the directives before a document. -/
def readDirectives : Nat → Bool → Reading → Except Flaw Reading
  | 0, _, p => .ok p
  | fuel + 1, versioned, p => do
    let t ← p.peek
    match t.kind with
    | .version major minor =>
      if versioned then .error (.problem "found duplicate %YAML directive" t.start none)
      else if incompatible major minor then
        .error (.problem "found incompatible YAML document" t.start none)
      else readDirectives fuel true p.skip
    | .tagHandle handle expansion =>
      if (p.handles.lookup handle).isSome then
        .error (.problem "found duplicate %TAG directive" t.start none)
      else
        readDirectives fuel versioned
          { p.skip with handles := p.handles ++ [(handle, expansion)] }
    | _ => return p

def isDirective : Token.Kind → Bool
  | .version .. | .tagHandle .. => true
  | _ => false

/-- Passes the signs that end documents. -/
def skipDocumentEnds (p : Reading) : Reading :=
  { p with tokens := p.tokens.dropWhile fun t => t.kind == .documentEnd }

/-- Remembers that a document has to end. -/
def inDocument (p : Reading) : Reading := { p with outer := .documentEnd :: p.outer }

def readDocumentStart (implicit : Bool) (p : Reading) : Outcome := do
  let p := if implicit then p else p.skipDocumentEnds
  let t ← p.peek
  if t.kind = .streamEnd then p.skip.tell .streamEnd t.start .finished
  else if implicit ∧ ¬isDirective t.kind ∧ t.kind ≠ .documentStart then
    p.inDocument.tell .documentStart t.start .blockNode
  else
    let p ← readDirectives (p.tokens.length + 1) false p
    let u ← p.peek
    if u.kind = .documentStart then
      p.skip.inDocument.tell .documentStart t.start .documentContent
    else .error (.problem "did not find expected <document start>" u.start none)

def readDocumentContent (p : Reading) : Outcome := do
  let t ← p.peek
  if isDirective t.kind ∨ [.documentStart, .documentEnd, .streamEnd].contains t.kind then
    p.tellLast (emptyScalar none none) t.start
  else p.readNode true false

def readDocumentEnd (p : Reading) : Outcome := do
  let t ← p.peek
  let p := { p with handles := [] }
  if t.kind = .documentEnd then p.skip.tell .documentEnd t.start (.documentStart false)
  else p.tell .documentEnd t.start (.documentStart false)

/-! ## Blocks -/

def readBlockSequenceEntry (opened : Mark) (p : Reading) : Outcome := do
  let t ← p.peek
  match t.kind with
  | .blockEntry =>
    p.skip.readOptional t.stop [.blockEntry, .blockEnd] (.blockSequenceEntry opened) true false
  | .blockEnd => p.skip.tellLast .sequenceEnd t.start
  | _ =>
    flaw "did not find expected '-' indicator" t.start "while parsing a block collection" opened

def readIndentlessEntry (p : Reading) : Outcome := do
  let t ← p.peek
  match t.kind with
  | .blockEntry =>
    p.skip.readOptional t.stop [.blockEntry, .key, .value, .blockEnd] .indentlessEntry true false
  | _ => p.tellLast .sequenceEnd t.start

def readBlockMappingKey (opened : Mark) (p : Reading) : Outcome := do
  let t ← p.peek
  match t.kind with
  | .key =>
    p.skip.readOptional t.stop [.key, .value, .blockEnd] (.blockMappingValue opened) true true
  | .blockEnd => p.skip.tellLast .mappingEnd t.start
  | _ => flaw "did not find expected key" t.start "while parsing a block mapping" opened

def readBlockMappingValue (opened : Mark) (p : Reading) : Outcome := do
  let t ← p.peek
  match t.kind with
  | .value =>
    p.skip.readOptional t.stop [.key, .value, .blockEnd] (.blockMappingKey opened) true true
  | _ => p.tellEmpty t.start (.blockMappingKey opened)

/-! ## Brackets -/

/-- Passes the comma before an entry that is not the first. -/
def readComma (p : Reading) (first : Bool) (what context : String) (opened : Mark) :
    Except Flaw Reading := do
  let t ← p.peek
  if first then return p
  else if t.kind = .flowEntry then return p.skip
  else flaw what t.start context opened

def readFlowSequenceEntry (first : Bool) (opened : Mark) (p : Reading) : Outcome := do
  let t ← p.peek
  if t.kind = .flowSequenceEnd then p.skip.tellLast .sequenceEnd t.start
  else
    let p ← p.readComma first "did not find expected ',' or ']'" "while parsing a flow sequence"
      opened
    let t ← p.peek
    match t.kind with
    | .key => p.skip.tell (.mappingStart none none) t.start (.pairKey opened)
    | .flowSequenceEnd => p.skip.tellLast .sequenceEnd t.start
    | _ => p.readNodeThen (.flowSequenceEntry false opened) false false

/-- The key of a pair in a sequence; where it was left out, the next sign is passed. -/
def readPairKey (opened : Mark) (p : Reading) : Outcome := do
  let t ← p.peek
  if [.value, .flowEntry, .flowSequenceEnd].contains t.kind then
    p.skip.tellEmpty t.stop (.pairValue opened)
  else p.readNodeThen (.pairValue opened) false false

def readPairValue (opened : Mark) (p : Reading) : Outcome := do
  let t ← p.peek
  match t.kind with
  | .value => do
    let u ← p.skip.peek
    p.skip.readOptional u.start [.flowEntry, .flowSequenceEnd] (.pairEnd opened) false false
  | _ => p.tellEmpty t.start (.pairEnd opened)

def readPairEnd (opened : Mark) (p : Reading) : Outcome := do
  let t ← p.peek
  p.tell .mappingEnd t.start (.flowSequenceEntry false opened)

def readFlowMappingKey (first : Bool) (opened : Mark) (p : Reading) : Outcome := do
  let t ← p.peek
  if t.kind = .flowMappingEnd then p.skip.tellLast .mappingEnd t.start
  else
    let p ← p.readComma first "did not find expected ',' or '\x7d'"
      "while parsing a flow mapping" opened
    let t ← p.peek
    match t.kind with
    | .key => do
      let u ← p.skip.peek
      p.skip.readOptional u.start [.value, .flowEntry, .flowMappingEnd] (.flowMappingValue opened)
        false false
    | .flowMappingEnd => p.skip.tellLast .mappingEnd t.start
    | _ => p.readNodeThen (.flowMappingNoValue opened) false false

def readFlowMappingValue (opened : Mark) (p : Reading) : Outcome := do
  let t ← p.peek
  match t.kind with
  | .value => do
    let u ← p.skip.peek
    p.skip.readOptional u.start [.flowEntry, .flowMappingEnd] (.flowMappingKey false opened) false
      false
  | _ => p.tellEmpty t.start (.flowMappingKey false opened)

def readNoValue (opened : Mark) (p : Reading) : Outcome := do
  let t ← p.peek
  p.tellEmpty t.start (.flowMappingKey false opened)

/-- Reads the next event. -/
def next (p : Reading) : Outcome :=
  match p.stage with
  | .documentStart implicit => p.readDocumentStart implicit
  | .documentContent => p.readDocumentContent
  | .documentEnd => p.readDocumentEnd
  | .blockNode => p.readNode true false
  | .blockSequenceEntry opened => p.readBlockSequenceEntry opened
  | .indentlessEntry => p.readIndentlessEntry
  | .blockMappingKey opened => p.readBlockMappingKey opened
  | .blockMappingValue opened => p.readBlockMappingValue opened
  | .flowSequenceEntry first opened => p.readFlowSequenceEntry first opened
  | .pairKey opened => p.readPairKey opened
  | .pairValue opened => p.readPairValue opened
  | .pairEnd opened => p.readPairEnd opened
  | .flowMappingKey first opened => p.readFlowMappingKey first opened
  | .flowMappingValue opened => p.readFlowMappingValue opened
  | .flowMappingNoValue opened => p.readNoValue opened
  | .finished => .error p.broken

/-- Reads events to the end of the stream or up to a flaw. -/
def run : Nat → Reading → List (Event.Placed String) × Option Flaw
  | 0, p => ([], some p.broken)
  | fuel + 1, p =>
    match p.next with
    | .error f => ([], some f)
    | .ok (e, p) =>
      match p.stage with
      | .finished => ([e], none)
      | _ =>
        let (more, f) := run fuel p
        (e :: more, f)

end Reading

/-- The events of a text up to its end or its first flaw. No token makes more than three
events, so the steps suffice. -/
def Event.ofText (text : List Char) : List (Event.Placed String) × Option Flaw :=
  let (tokens, flaw) := Token.ofText text
  Reading.run (4 * tokens.length + 8)
    { tokens, broken := flaw.getD (.ofText "EOF while parsing a value") }

end FilterQuery.Yaml
