import FilterQuery.Text.Hexadecimal
import FilterQuery.Yaml.Token.Gap

/-!
# Quoted scalars

Between single quotes, a quote is written twice and nothing else is special. Between
double quotes, a backslash begins an escape, and one at the end of a line joins the next
line without a blank.
-/
namespace FilterQuery.Yaml.Quoted

def scanning : String := "while scanning a quoted scalar"

def parsing : String := "while parsing a quoted scalar"

/-- The character that an escape letter stands for by itself. -/
def escapeOf? (c : Char) : Option Char :=
  match c with
  | '0' => some '\x00'
  | 'a' => some '\x07'
  | 'b' => some '\x08'
  | 't' | '\t' => some '\t'
  | 'n' => some '\n'
  | 'v' => some '\x0b'
  | 'f' => some '\x0c'
  | 'r' => some '\r'
  | 'e' => some '\x1b'
  | ' ' => some ' '
  | '"' => some '"'
  | '/' => some '/'
  | '\\' => some '\\'
  | 'N' => some '\x85'
  | '_' => some '\xa0'
  | 'L' => some '\u2028'
  | 'P' => some '\u2029'
  | _ => none

/-- How many hexadecimal digits follow an escape letter. -/
def digitCount? (c : Char) : Option Nat :=
  match c with
  | 'x' => some 2
  | 'u' => some 4
  | 'U' => some 8
  | _ => none

/-- The character of an escape; the cursor is at its backslash. -/
def readEscape (start : Mark) (c : Cursor) : Except Flaw (Char × Cursor) :=
  match c.rest with
  | _ :: letter :: r =>
    match escapeOf? letter, digitCount? letter with
    | some e, _ => .ok (e, c.forward 2)
    | none, some count => do
      let after := c.forward 2
      let digits := (r.take count).map Text.hexValue?
      if digits.length = count ∧ digits.all Option.isSome then
        let n := digits.foldl (fun n d => n * 16 + d.getD 0) 0
        if h : n.isValidChar then return (Char.ofNatAux n h, after.forward count)
        else after.flaw parsing start "found invalid Unicode character escape code"
      else after.flaw parsing start "did not find expected hexadecimal number"
    | none, none => c.flaw parsing start "found unknown escape character"
  | _ => c.flaw parsing start "found unknown escape character"

/-- What is in a word of a quoted scalar: the text so far, and whether a backslash has
joined the next line to it. -/
structure Word where
  text : List Char
  joined : Bool
  cursor : Cursor

/-- Reads up to a blank, a break, the closing quote or the end of the text. -/
def readWord (single : Bool) (start : Mark) : Nat → List Char → Cursor → Except Flaw Word
  | 0, text, c => .ok ⟨text, false, c⟩
  | fuel + 1, text, c =>
    if atWordEnd c.rest then .ok ⟨text, false, c⟩
    else
      match single, c.rest with
      | true, '\'' :: '\'' :: _ => readWord single start fuel (text ++ ['\'']) (c.forward 2)
      | true, '\'' :: _ | false, '"' :: _ => .ok ⟨text, false, c⟩
      | false, '\\' :: r =>
        match r with
        | b :: _ =>
          if isBreak b then .ok ⟨text, true, (c.forward 1).readBreak.2⟩
          else do
            let (e, c') ← readEscape start c
            readWord single start fuel (text ++ [e]) c'
        | [] => c.flaw parsing start "found unknown escape character"
      | _, d :: _ => readWord single start fuel (text ++ [d]) (c.forward 1)
      | _, [] => .ok ⟨text, false, c⟩

/-- Reads the words and gaps up to the closing quote, which is passed. -/
def readWords (single : Bool) (start : Mark) : Nat → List Char → Cursor →
    Except Flaw (List Char × Cursor)
  | 0, _, c => c.flaw scanning start "found unexpected end of stream"
  | fuel + 1, text, c =>
    if c.atDocumentBorder then c.flaw scanning start "found unexpected document indicator"
    else if c.rest.isEmpty then c.flaw scanning start "found unexpected end of stream"
    else do
      let word ← readWord single start (c.rest.length + 1) text c
      if word.cursor.rest.head? = some (if single then '\'' else '"') then
        return (word.text, word.cursor.forward 1)
      else
        let (gap, c') := Gap.read 0 { broken := word.joined } word.cursor
        readWords single start fuel (word.text ++ gap.text) c'

/-- The scalar that starts here with its opening quote. -/
def read (single : Bool) (c : Cursor) : Except Flaw (String × Cursor) := do
  let (text, c') ← readWords single c.mark (c.rest.length + 1) [] (c.forward 1)
  return (String.ofList text, c')

end FilterQuery.Yaml.Quoted
