/-!
# Flaws of JSON texts

A flaw is a place in a text together with what is wrong there. Places are kept as what
is left of the text, so that reading needs no counters; line and column are worked out
only when a flaw is reported. Columns count bytes.
-/
namespace FilterQuery.Json

/-- What is left of a text from some point on. -/
abbrev Rest := List Char

inductive Fault
  | endInArray
  | endInObject
  | endInString
  | endInValue
  | expectedColon
  | expectedArrayEnd
  | expectedObjectEnd
  | expectedIdent
  | expectedValue
  | invalidEscape
  | invalidNumber
  | numberOutOfRange
  | controlCharacter
  | keyNotString
  | loneSurrogate
  | halfSurrogatePair
  | trailingComma
  | trailingCharacters
  | tooDeep
  deriving DecidableEq, Repr

def Fault.message : Fault → String
  | endInArray => "EOF while parsing a list"
  | endInObject => "EOF while parsing an object"
  | endInString => "EOF while parsing a string"
  | endInValue => "EOF while parsing a value"
  | expectedColon => "expected `:`"
  | expectedArrayEnd => "expected `,` or `]`"
  | expectedObjectEnd => "expected `,` or `\x7d`"
  | expectedIdent => "expected ident"
  | expectedValue => "expected value"
  | invalidEscape => "invalid escape"
  | invalidNumber => "invalid number"
  | numberOutOfRange => "number out of range"
  | controlCharacter => "control character (\\u0000-\\u001F) found while parsing a string"
  | keyNotString => "key must be a string"
  | loneSurrogate => "lone leading surrogate in hex escape"
  | halfSurrogatePair => "unexpected end of hex escape"
  | trailingComma => "trailing comma"
  | trailingCharacters => "trailing characters"
  | tooDeep => "recursion limit exceeded"

/-- A point some bytes past the start of what is left. -/
structure Place where
  rest : Rest
  past : Nat := 0
  deriving DecidableEq, Repr

structure Flaw where
  fault : Fault
  place : Place
  deriving DecidableEq, Repr

namespace Flaw

/-- A flaw right before what is left. -/
def before (f : Fault) (r : Rest) : Flaw := ⟨f, ⟨r, 0⟩⟩

/-- A flaw at the next byte, which counts as passed. -/
def within (f : Fault) (r : Rest) : Flaw := ⟨f, ⟨r, 1⟩⟩

end Flaw

/-- Line and column of a point. -/
structure Position where
  line : Nat := 1
  column : Nat := 0
  deriving DecidableEq, Repr

/-- Passes up to `bytes` bytes of the text. -/
def Position.advance (p : Position) : Nat → List Char → Position
  | _, [] => p
  | bytes, c :: r =>
    if c.utf8Size ≤ bytes then
      advance (if c = '\n' then ⟨p.line + 1, 0⟩ else ⟨p.line, p.column + c.utf8Size⟩)
        (bytes - c.utf8Size) r
    else ⟨p.line, p.column + bytes⟩

def utf8Length (s : List Char) : Nat := s.foldl (fun n c => n + c.utf8Size) 0

/-- The position of a place of the text. -/
def Place.position (p : Place) (text : List Char) : Position :=
  ({} : Position).advance (utf8Length text - utf8Length p.rest + p.past) text

/-- Blanks between the tokens of a JSON text. -/
def isBlank (c : Char) : Bool := c = ' ' || c = '\n' || c = '\t' || c = '\r'

def skipBlank (r : Rest) : Rest := r.dropWhile isBlank

end FilterQuery.Json
