/-!
# Places and flaws of YAML texts

A flaw is told with its place and, if it lies in something larger, with where that began.
Nothing is said of a place at the very start of a text.
-/
namespace FilterQuery.Yaml

/-- A place in a text: the bytes before it, and its line and column from zero on. Columns
count characters. -/
structure Mark where
  offset : Nat := 0
  line : Nat := 0
  column : Nat := 0
  deriving DecidableEq, Repr, Inhabited

namespace Mark

def isStart (m : Mark) : Bool := m.line == 0 && m.column == 0

/-- The place behind a character of a line. -/
def past (m : Mark) (c : Char) : Mark := ⟨m.offset + c.utf8Size, m.line, m.column + 1⟩

/-- The beginning of the next line, behind a break of so many bytes. -/
def nextLine (m : Mark) (width : Nat) : Mark := ⟨m.offset + width, m.line + 1, 0⟩

def text (m : Mark) : String := s!"line {m.line + 1} column {m.column + 1}"

/-- The words that add the place to a message. -/
def clause (m : Mark) : String := if m.isStart then "" else " at " ++ m.text

end Mark

/-- What makes a text unfit to be read on. -/
inductive Flaw
  /-- A character that no text may hold, so many bytes from the start. -/
  | badCharacter (offset : Nat)
  | problem (what : String) (mark : Mark) (context : Option (String × Mark))
  deriving DecidableEq, Repr, Inhabited

namespace Flaw

/-- A flaw of a text as a whole. -/
def ofText (what : String) : Flaw := .problem what {} none

def message : Flaw → String
  | badCharacter offset =>
    "control characters are not allowed" ++
      (if offset = 0 then "" else s!" at position {offset}")
  | problem what mark none => what ++ mark.clause
  | problem what mark (some (context, start)) =>
    what ++ mark.clause ++ ", " ++ context ++
      (if start.line = mark.line ∧ start.column = mark.column then "" else start.clause)

end Flaw

end FilterQuery.Yaml
