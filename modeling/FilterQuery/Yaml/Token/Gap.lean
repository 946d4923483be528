import FilterQuery.Yaml.Cursor

/-!
# Gaps within scalars

Between the words of a scalar that goes on over several lines stand blanks and line
breaks. Without a break the blanks are kept. One break is folded to a blank; further ones
are kept in its place, and so are breaks that are not read as line feeds.
-/
namespace FilterQuery.Yaml

structure Gap where
  blanks : List Char := []
  /-- Whether a line has been ended, after which blanks do not count. -/
  broken : Bool := false
  firstBreak : List Char := []
  moreBreaks : List Char := []
  /-- The first tab after a break that stands further left than it may. -/
  tab : Option Mark := none

namespace Gap

/-- What a gap adds to the scalar. -/
def text (g : Gap) : List Char :=
  if g.broken then
    if g.firstBreak = ['\n'] then if g.moreBreaks.isEmpty then [' '] else g.moreBreaks
    else g.firstBreak ++ g.moreBreaks
  else g.blanks

def addBreak (g : Gap) (b : List Char) : Gap :=
  if g.broken then { g with moreBreaks := g.moreBreaks ++ b }
  else { g with blanks := [], broken := true, firstBreak := b }

/-- Adds a blank; after a break, tabs may not stand left of column `indent`. -/
def addBlank (g : Gap) (indent : Nat) (m : Mark) (c : Char) : Gap :=
  if g.broken then
    { g with tab := g.tab.or (if c = '\t' ∧ m.column < indent then some m else none) }
  else { g with blanks := g.blanks ++ [c] }

/-- Reads on over blanks and breaks. -/
def extend (indent : Nat) (g : Gap) (m : Mark) : List Char → Gap × Cursor
  | [] => (g, ⟨[], m⟩)
  | '\r' :: '\n' :: r => extend indent (g.addBreak ['\n']) (m.nextLine 2) r
  | c :: r =>
    if isBlank c then extend indent (g.addBlank indent m c) (m.past c) r
    else if isBreak c then
      extend indent (g.addBreak (breakText c)) (m.nextLine c.utf8Size) r
    else (g, ⟨c :: r, m⟩)

def read (indent : Nat) (g : Gap) (c : Cursor) : Gap × Cursor := extend indent g c.mark c.rest

end Gap

end FilterQuery.Yaml
