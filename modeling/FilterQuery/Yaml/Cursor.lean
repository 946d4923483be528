import FilterQuery.Yaml.Mark

/-!
# Walking through a YAML text

A cursor is what is left of a text together with the place that has been reached. Lines
end with a line feed, a carriage return or both, or with one of the three Unicode line
ends; all but the last two of these are read as line feeds.
-/
namespace FilterQuery.Yaml

def isBlank (c : Char) : Bool := c = ' ' || c = '\t'

def isBreak (c : Char) : Bool :=
  c = '\n' || c = '\r' || c = '\x85' || c = '\u2028' || c = '\u2029'

/-- What a line break is read as. -/
def breakText (c : Char) : List Char := if c = '\u2028' ∨ c = '\u2029' then [c] else ['\n']

/-- Letters, digits, hyphens and low lines, as names are made of. -/
def isWord (c : Char) : Bool := c.isAlphanum || c = '_' || c = '-'

/-- Whether a word ends here: at a blank, a line break or the end of the text. -/
def atWordEnd : List Char → Bool
  | [] => true
  | c :: _ => isBlank c || isBreak c

/-- Whether a line ends here. -/
def atLineEnd : List Char → Bool
  | [] => true
  | c :: _ => isBreak c

structure Cursor where
  rest : List Char
  mark : Mark := {}
  deriving Inhabited

namespace Cursor

/-- Passes characters of a line. -/
def forward (c : Cursor) (n : Nat) : Cursor :=
  ⟨c.rest.drop n, (c.rest.take n).foldl Mark.past c.mark⟩

/-- Passes characters of a line as long as they are of a kind. -/
def takeWhile (c : Cursor) (p : Char → Bool) : List Char × Cursor :=
  let taken := c.rest.takeWhile p
  (taken, c.forward taken.length)

def skipWhile (c : Cursor) (p : Char → Bool) : Cursor := (c.takeWhile p).2

/-- The text of a line break that stands here, if any, and the beginning of the next line. -/
def readBreak (c : Cursor) : List Char × Cursor :=
  match c.rest with
  | '\r' :: '\n' :: r => (['\n'], ⟨r, c.mark.nextLine 2⟩)
  | b :: r => if isBreak b then (breakText b, ⟨r, c.mark.nextLine b.utf8Size⟩) else ([], c)
  | [] => ([], c)

/-- Passes blanks and a comment up to the end of the line. -/
def skipComment (c : Cursor) : Cursor :=
  match c.rest with
  | '#' :: _ => c.skipWhile fun d => !isBreak d
  | _ => c

/-- Whether three hyphens or three dots stand here at the beginning of a line and end a word. -/
def atDocumentSign (c : Cursor) (sign : Char) : Bool :=
  c.mark.column == 0 &&
    match c.rest with
    | a :: b :: d :: r => a == sign && b == sign && d == sign && atWordEnd r
    | _ => false

def atDocumentBorder (c : Cursor) : Bool := c.atDocumentSign '-' || c.atDocumentSign '.'

/-- A flaw right here, within something that began at a place. -/
def flaw {α : Type} (c : Cursor) (context : String) (start : Mark) (what : String) :
    Except Flaw α :=
  .error (.problem what c.mark (some (context, start)))

/-- A flaw right here. -/
def bareFlaw {α : Type} (c : Cursor) (what : String) : Except Flaw α :=
  .error (.problem what c.mark none)

end Cursor

end FilterQuery.Yaml
