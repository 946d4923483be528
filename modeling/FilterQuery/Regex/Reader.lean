import FilterQuery.Regex.Expression
import FilterQuery.Text.Blank
import FilterQuery.Text.Alphanumeric
import FilterQuery.Text.Hexadecimal

/-!
# Reading regular expressions

A pattern is read from left to right. In verbose mode blanks and comments between its
parts do not count. What is not an expression is refused without further explanation.
-/
namespace FilterQuery.Regex

/-- What is left of a pattern. -/
abbrev Rest := List Char

/-- Passes blanks and comments; the flag tells that a comment is open. -/
def skipVerbose : Bool → Rest → Rest
  | _, [] => []
  | true, c :: r => skipVerbose (c != '\n') r
  | false, c :: r =>
    if Text.isBlank c then skipVerbose false r
    else if c = '#' then skipVerbose true r
    else c :: r

def skip (verbose : Bool) (r : Rest) : Rest := if verbose then skipVerbose false r else r

/-- Passes one character and what does not count after it. -/
def next (verbose : Bool) (r : Rest) : Rest := skip verbose r.tail

/-- Looks past blanks and the first comment sign; the flag tells that it was passed. -/
def peekVerbose : Bool → Rest → Option Char
  | _, [] => none
  | comment, c :: r =>
    if Text.isBlank c then peekVerbose comment r
    else if c = '#' ∧ ¬comment then peekVerbose true r
    else some c

/-- The character after the current one, blanks aside. -/
def peek (verbose : Bool) (r : Rest) : Option Char :=
  if verbose then (peekVerbose false r.tail).or r.tail.head? else r.tail.head?

def isMeta (c : Char) : Bool := "\\.+*?()|[]\x7b\x7d^$#&-~".toList.contains c

/-- A punctuation character that may stand after a backslash for itself. -/
def isEscapeable (c : Char) : Bool :=
  isMeta c || (c.toNat < 0x80 && !c.isAlphanum && c != '<' && c != '>')

/-- The character of a code point, surrogates excluded. -/
def scalar? (n : Nat) : Option Char := if h : n.isValidChar then some (.ofNatAux n h) else none

/-- Reads as many hexadecimal digits as asked for, with `n` read so far. -/
def readHexDigits (verbose : Bool) : Nat → Nat → Rest → Option (Nat × Rest)
  | 0, n, r => some (n, r)
  | count + 1, n, c :: r => do
    let d ← Text.hexValue? c
    readHexDigits verbose count (n * 16 + d) (skip verbose r)
  | _ + 1, _, [] => none

/-- Reads hexadecimal digits up to a closing brace; the fuel covers what is left. -/
def readHexBrace (verbose : Bool) : Nat → List Nat → Rest → Option (List Nat × Rest)
  | 0, _, _ => none
  | _ + 1, ds, '\x7d' :: r => some (ds, skip verbose r)
  | fuel + 1, ds, c :: r => do
    let d ← Text.hexValue? c
    readHexBrace verbose fuel (ds ++ [d]) (skip verbose r)
  | _ + 1, _, [] => none

/-- The literal of a hexadecimal escape; what is left starts with its letter. -/
def readHex (verbose : Bool) (letter : Char) (r : Rest) : Option (Literal × Rest) :=
  match next verbose r with
  | [] => none
  | '\x7b' :: r' => do
    let (ds, r'') ← readHexBrace verbose (r'.length + 1) [] (skip verbose r')
    if ds.isEmpty then none
    else
      let n := ds.foldl (fun n d => min (n * 16 + d) 0x110000) 0
      return (⟨← scalar? n, false⟩, r'')
  | r' => do
    let count := if letter = 'x' then 2 else if letter = 'u' then 4 else 8
    let (n, r'') ← readHexDigits verbose count 0 r'
    return (⟨← scalar? n, letter = 'x'⟩, r'')

/-- The text up to a closing brace, what does not count left out. -/
def readName (verbose : Bool) : Nat → List Char → Rest → Option (List Char × Rest)
  | 0, _, _ => none
  | _ + 1, name, '\x7d' :: r => some (name, r)
  | fuel + 1, name, c :: r => readName verbose fuel (name ++ [c]) (skip verbose r)
  | _ + 1, _, [] => none

/-- Splits a text at the first place where another stands in it. -/
def splitAt? (sep : List Char) : List Char → Option (List Char × List Char)
  | [] => none
  | c :: r =>
    if sep.isPrefixOf (c :: r) then some ([], (c :: r).drop sep.length)
    else (splitAt? sep r).map fun p => (c :: p.1, p.2)

/-- The property that a name in braces means, and whether it is turned around. -/
def propertyOf (name : List Char) : Bool × Property :=
  match splitAt? ['!', '='] name, splitAt? [':'] name, splitAt? ['='] name with
  | some (n, v), _, _ => (true, .valued n v)
  | none, some (n, v), _ => (false, .valued n v)
  | none, none, some (n, v) => (false, .valued n v)
  | none, none, none => (false, .named name)

/-- The property after a `p`; what is left starts with that letter. -/
def readProperty (verbose : Bool) (r : Rest) : Option ((Bool × Property) × Rest) :=
  match next verbose r with
  | [] => none
  | '\x7b' :: r' => do
    let (name, r'') ← readName verbose (r'.length + 1) [] (skip verbose r')
    return (propertyOf name, r'')
  | c :: r' => if c = '\\' then none else some ((false, .named [c]), skip verbose r')

/-- What an escape or a single character stands for. -/
inductive Primitive
  | literal (l : Literal)
  | dot
  | assertion (a : Assertion)
  | perl (negated : Bool) (c : Perl)
  | property (negated : Bool) (p : Property)

def isBoundaryChar (c : Char) : Bool := c.isAlpha || c = '-'

def boundaryOf? (name : List Char) : Option Assertion :=
  [("start", Assertion.wordStart), ("end", .wordEnd), ("start-half", .wordStartHalf),
    ("end-half", .wordEndHalf)].lookup (String.ofList name)

def readBoundaryName (verbose : Bool) : Nat → List Char → Rest → List Char × Rest
  | 0, name, r => (name, r)
  | _ + 1, name, [] => (name, [])
  | fuel + 1, name, c :: r =>
    if isBoundaryChar c then readBoundaryName verbose fuel (name ++ [c]) (skip verbose r)
    else (name, c :: r)

/-- A word boundary, whose sort may be named in braces; a brace that does not begin a
name is left alone. -/
def readBoundary (verbose : Bool) (r : Rest) : Option (Primitive × Rest) :=
  match r with
  | '\x7b' :: r' =>
    match skip verbose r' with
    | [] => none
    | c :: r'' =>
      if isBoundaryChar c then
        match readBoundaryName verbose (r''.length + 2) [] (c :: r'') with
        | (name, '\x7d' :: rest) => do return (.assertion (← boundaryOf? name), rest)
        | _ => none
      else some (.assertion .wordBoundary, r)
  | _ => some (.assertion .wordBoundary, r)

/-- What an escape stands for; what is left starts after the backslash. -/
def readEscape (verbose : Bool) (r : Rest) : Option (Primitive × Rest) :=
  match r with
  | [] => none
  | c :: r' =>
    let literal (c : Char) : Option (Primitive × Rest) := some (.literal ⟨c, false⟩, r')
    let assertion (a : Assertion) : Option (Primitive × Rest) := some (.assertion a, r')
    match c with
    | 'x' | 'u' | 'U' => do
      let (l, r'') ← readHex verbose c r
      return (.literal l, r'')
    | 'p' | 'P' => do
      let ((turned, p), r'') ← readProperty verbose r
      return (.property (turned != (c = 'P')) p, r'')
    | 'd' => some (.perl false .digit, r')
    | 's' => some (.perl false .space, r')
    | 'w' => some (.perl false .word, r')
    | 'D' => some (.perl true .digit, r')
    | 'S' => some (.perl true .space, r')
    | 'W' => some (.perl true .word, r')
    | 'a' => literal '\x07'
    | 'f' => literal '\x0c'
    | 't' => literal '\t'
    | 'n' => literal '\n'
    | 'r' => literal '\r'
    | 'v' => literal '\x0b'
    | 'A' => assertion .textStart
    | 'z' => assertion .textEnd
    | 'b' => readBoundary verbose r'
    | 'B' => assertion .notWordBoundary
    | '<' => assertion .wordStart
    | '>' => assertion .wordEnd
    | c => if isEscapeable c then literal c else none

/-! ## Bracketed classes -/

/-- A class named in brackets and colons, if one stands here. -/
def readAscii? (r : Rest) : Option (ClassSet × Rest) :=
  match r with
  | '[' :: ':' :: r' => do
    let (negated, r'') :=
      match r' with
      | '^' :: r'' => (true, r'')
      | r'' => (false, r'')
    let name := r''.takeWhile (· != ':')
    match r''.drop name.length with
    | ':' :: ']' :: rest => do
      let c ← AsciiClass.list.find? (·.name == String.ofList name)
      return (.ascii negated c, rest)
    | _ => none
  | _ => none

def readClassPrimitive (verbose : Bool) (r : Rest) : Option (Primitive × Rest) :=
  match r with
  | [] => none
  | '\\' :: r' => readEscape verbose r'
  | c :: r' => some (.literal ⟨c, false⟩, r')

def Primitive.toClassSet? : Primitive → Option ClassSet
  | literal l => some (.literal l)
  | perl negated c => some (.perl negated c)
  | property negated p => some (.property negated p)
  | dot | assertion _ => none

/-- A character, a range or a class inside brackets. -/
def readClassRange (verbose : Bool) (r : Rest) : Option (ClassSet × Rest) := do
  let (first, r') ← readClassPrimitive verbose r
  let r' := skip verbose r'
  match r' with
  | [] => none
  | '-' :: _ =>
    let after := peek verbose r'
    if after = some ']' ∨ after = some '-' then return (← first.toClassSet?, r')
    else
      let (last, rest) ← readClassPrimitive verbose (next verbose r')
      match first, last with
      | .literal a, .literal b => if a.char ≤ b.char then some (.range a b, rest) else none
      | _, _ => none
  | _ => return (← first.toClassSet?, r')

/-- The hyphens at the beginning of a class. -/
def readHyphens (verbose : Bool) : Nat → List ClassSet → Rest → List ClassSet × Rest
  | 0, items, r => (items, r)
  | fuel + 1, items, '-' :: r =>
    readHyphens verbose fuel (items ++ [.literal ⟨'-', false⟩]) (skip verbose r)
  | _ + 1, items, r => (items, r)

/-- The beginning of a class after its bracket: whether it is negated, and the characters
that are literal only there. -/
def readClassOpen (verbose : Bool) (r : Rest) : Option ((Bool × List ClassSet) × Rest) :=
  let (negated, r') :=
    match skip verbose r with
    | '^' :: r' => (true, skip verbose r')
    | r' => (false, r')
  let (hyphens, r'') := readHyphens verbose (r'.length + 1) [] r'
  let (items, rest) :=
    match hyphens, r'' with
    | [], ']' :: rest => ([ClassSet.literal ⟨']', false⟩], skip verbose rest)
    | hyphens, rest => (hyphens, rest)
  if rest.isEmpty then none else some ((negated, items), rest)

def setOp? : Rest → Option (SetOp × Rest)
  | '&' :: '&' :: r => some (.intersection, r)
  | '-' :: '-' :: r => some (.difference, r)
  | '~' :: '~' :: r => some (.symmetric, r)
  | _ => none

/-- The items gathered so far, joined to what stands before the last operator. -/
def closeOperand (pending : Option (SetOp × ClassSet)) (items : List ClassSet) : ClassSet :=
  match pending with
  | none => .ofItems items
  | some (o, left) => .op o left (.ofItems items)

/-- The items of a class up to its closing bracket. -/
def readClassItems (verbose : Bool) : Nat → Option (SetOp × ClassSet) → List ClassSet → Rest →
    Option (ClassSet × Rest)
  | 0, _, _, _ => none
  | fuel + 1, pending, items, r =>
    let r := skip verbose r
    match r with
    | [] => none
    | ']' :: r' => some (closeOperand pending items, r')
    | '[' :: r' =>
      match readAscii? r with
      | some (c, rest) => readClassItems verbose fuel pending (items ++ [c]) rest
      | none => do
        let ((negated, first), r'') ← readClassOpen verbose r'
        let (inner, rest) ← readClassItems verbose fuel none first r''
        readClassItems verbose fuel pending (items ++ [.bracket negated inner]) rest
    | _ =>
      match setOp? r with
      | some (o, rest) =>
        readClassItems verbose fuel (some (o, closeOperand pending items)) [] rest
      | none => do
        let (item, rest) ← readClassRange verbose r
        readClassItems verbose fuel pending (items ++ [item]) rest

/-- A bracketed class; what is left starts after its bracket. -/
def readClass (verbose : Bool) (r : Rest) : Option (Expression × Rest) := do
  let ((negated, first), r') ← readClassOpen verbose r
  let (inner, rest) ← readClassItems verbose (r.length + 1) none first r'
  return (.bracket negated inner, rest)

/-! ## Repetitions -/

/-- The counts of a repetition are 32-bit numbers. -/
def countLimit : Nat := Nat.pow 2 32 - 1

def readDigits (verbose : Bool) : Nat → List Char → Rest → List Char × Rest
  | 0, ds, r => (ds, r)
  | _ + 1, ds, [] => (ds, [])
  | fuel + 1, ds, c :: r =>
    if c.isDigit then readDigits verbose fuel (ds ++ [c]) (skip verbose r) else (ds, c :: r)

def skipBlanks (verbose : Bool) (r : Rest) : Rest := skip verbose (r.dropWhile Text.isBlank)

/-- A decimal number with blanks around it. -/
def readDecimal (verbose : Bool) (r : Rest) : Option (Nat × Rest) :=
  let (ds, r') := readDigits verbose (r.length + 1) [] (r.dropWhile Text.isBlank)
  let n := ds.foldl (fun n d => min (n * 10 + (d.toNat - '0'.toNat)) (countLimit + 1)) 0
  if ds.isEmpty ∨ countLimit < n then none else some (n, skipBlanks verbose r')

/-- A question mark makes a repetition lazy; without one it is greedy. -/
def readGreed (r : Rest) : Bool × Rest :=
  match r with
  | '?' :: r' => (false, r')
  | r' => (true, r')

/-- The bounds of a counted repetition; what is left starts after the brace. -/
def readCounts (verbose : Bool) (r : Rest) : Option ((Nat × Option Nat) × Rest) := do
  let (least, r') ← readDecimal verbose (skip verbose r)
  let upper : Option (Option Nat × Rest) :=
    match r' with
    | ',' :: r'' =>
      match skip verbose r'' with
      | '\x7d' :: rest => some (none, '\x7d' :: rest)
      | rest => (readDecimal verbose rest).map fun p => (some p.1, p.2)
    | r'' => some (some least, r'')
  let (most, r'') ← upper
  match r'' with
  | '\x7d' :: rest =>
    if most.all (least ≤ ·) then some ((least, most), skip verbose rest) else none
  | _ => none

/-- Whether a repetition may follow. -/
def Expression.repeatable : Expression → Bool
  | empty | flags _ => false
  | _ => true

/-! ## Groups -/

def flagOf? : Char → Option Flag
  | 'i' => some .ignoreCase
  | 'm' => some .multiLine
  | 's' => some .dotNewline
  | 'U' => some .swapGreed
  | 'u' => some .unicode
  | 'R' => some .crlf
  | 'x' => some .verbose
  | _ => none

/-- Flags up to a colon or a closing parenthesis. No flag is named twice, and a hyphen
switches off the flags after it, of which there is at least one. -/
def readFlags : List (Flag × Bool) → Option Bool → Rest → Option (Flags × Rest)
  | _, _, [] => none
  | fs, dash, c :: r =>
    if c = ':' ∨ c = ')' then if dash = some true then none else some (fs, c :: r)
    else if c = '-' then if dash.isSome then none else readFlags fs (some true) r
    else do
      let f ← flagOf? c
      if (fs.lookup f).isSome then none
      else readFlags (fs ++ [(f, dash.isNone)]) (dash.map fun _ => false) r

def isNameStart (c : Char) : Bool := c = '_' || Text.isAlphabetic c

def isNameChar (c : Char) : Bool :=
  c = '_' || c = '.' || c = '[' || c = ']' || Text.isAlphanumeric c

/-- The name of a group, up to the angle bracket that closes it. -/
def readGroupName (r : Rest) : Option (List Char × Rest) :=
  let name := r.takeWhile (· != '>')
  match name, r.drop name.length with
  | c :: cs, _ :: rest => if isNameStart c ∧ cs.all isNameChar then some (c :: cs, rest) else none
  | _, _ => none

/-- What a parenthesis opens. -/
inductive Opening
  | flags (fs : Flags)
  | group (captures : Bool) (name : Option (List Char)) (fs : Flags)

/-- Reads what a parenthesis opens; what is left starts after it. -/
def readOpening (verbose : Bool) (r : Rest) : Option (Opening × Rest) :=
  let named (r : Rest) : Option (Opening × Rest) := do
    let (name, rest) ← readGroupName r
    return (.group true (some name) [], rest)
  match skip verbose r with
  | '?' :: '=' :: _ | '?' :: '!' :: _ | '?' :: '<' :: '=' :: _ | '?' :: '<' :: '!' :: _ => none
  | '?' :: 'P' :: '<' :: r' => named r'
  | '?' :: '<' :: r' => named r'
  | '?' :: r' => do
    let (fs, rest) ← readFlags [] none r'
    match rest with
    | ')' :: rest' => if fs.isEmpty then none else some (.flags fs, rest')
    | _ :: rest' => some (.group false none fs, rest')
    | [] => none
  | r' => some (.group true none [], r')

/-- How far a pattern has been read: what is left, whether verbose mode is on, and the
names of its groups. -/
structure Reading where
  rest : Rest
  verbose : Bool := false
  names : List (List Char) := []

/-- The parts of a group up to its end: the alternatives so far and the parts of the last
one. A closing parenthesis is left where it stands. -/
def readParts : Nat → List Expression → List Expression → Reading → Option (Expression × Reading)
  | 0, _, _, _ => none
  | fuel + 1, alternatives, parts, st =>
    let st := { st with rest := skip st.verbose st.rest }
    let push (e : Expression) (r : Rest) :=
      readParts fuel alternatives (parts ++ [e]) { st with rest := r }
    let repeated (least : Nat) (most : Option Nat) (r : Rest) :=
      match parts.getLast? with
      | some e =>
        if e.repeatable then
          let (greedy, r') := readGreed r
          readParts fuel alternatives (parts.dropLast ++ [.repetition least most greedy e])
            { st with rest := r' }
        else none
      | none => none
    let result := (Expression.ofAlternatives (alternatives ++ [.ofParts parts]), st)
    match st.rest with
    | [] => some result
    | ')' :: _ => some result
    | '|' :: r => readParts fuel (alternatives ++ [.ofParts parts]) [] { st with rest := r }
    | '(' :: r => do
      match ← readOpening st.verbose r with
      | (.flags fs, r') =>
        readParts fuel alternatives (parts ++ [.flags fs])
          { st with rest := r', verbose := setting fs .verbose st.verbose }
      | (.group captures name fs, r') =>
        if name.any fun n => st.names.contains n then none
        else
          let names := name.toList ++ st.names
          let (e, st') ← readParts fuel [] []
            { rest := r', verbose := setting fs .verbose st.verbose, names }
          match st'.rest with
          | ')' :: r'' =>
            readParts fuel alternatives (parts ++ [.group captures fs e])
              { rest := r'', verbose := st.verbose, names := st'.names }
          | _ => none
    | '[' :: r => do
      let (e, r') ← readClass st.verbose r
      push e r'
    | '?' :: r => repeated 0 (some 1) r
    | '*' :: r => repeated 0 none r
    | '+' :: r => repeated 1 none r
    | '\x7b' :: r => do
      if (parts.getLast?).all Expression.repeatable then
        let ((least, most), r') ← readCounts st.verbose r
        repeated least most r'
      else none
    | '\\' :: r => do
      match ← readEscape st.verbose r with
      | (.literal l, r') => push (.literal l) r'
      | (.dot, r') => push .dot r'
      | (.assertion a, r') => push (.assertion a) r'
      | (.perl negated c, r') => push (.perl negated c) r'
      | (.property negated p, r') => push (.property negated p) r'
    | '.' :: r => push .dot r
    | '^' :: r => push (.assertion .lineStart) r
    | '$' :: r => push (.assertion .lineEnd) r
    | c :: r => push (.literal ⟨c, false⟩) r

/-- The expression that a pattern writes, if it writes one. -/
def read? (pattern : String) : Option Expression := do
  let cs := pattern.toList
  let (e, st) ← readParts (cs.length + 1) [] [] { rest := cs }
  if st.rest.isEmpty then some e else none

end FilterQuery.Regex
