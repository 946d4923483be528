import FilterQuery.Yaml.Token.Gap

/-!
# Plain scalars

A scalar without quotes goes on up to a colon that ends a word, a comment, the border of
a document or a line that is not indented enough; between brackets, also up to a comma or
a bracket.
-/
namespace FilterQuery.Yaml.Plain

def scanning : String := "while scanning a plain scalar"

def isFlowSign (c : Char) : Bool := ",[]\x7b\x7d".toList.contains c

/-- A colon may not be followed by one of these between brackets. -/
def clashes (r : List Char) : Bool := r.head?.any fun c => c = '?' || isFlowSign c

/-- Reads a word; the flag tells that a colon was found where it may not stand. -/
def readWord (inFlow : Bool) : List Char → List Char × Bool
  | [] => ([], false)
  | c :: r =>
    if atWordEnd (c :: r) then ([], false)
    else if inFlow ∧ c = ':' ∧ clashes r then ([], true)
    else if c = ':' ∧ atWordEnd r ∨ inFlow ∧ isFlowSign c then ([], false)
    else
      let (word, clash) := readWord inFlow r
      (c :: word, clash)

/-- A plain scalar: its text, where it ends, and what stands after it up to the cursor. -/
structure Reading where
  text : List Char
  stop : Mark
  gap : Gap
  cursor : Cursor

/-- Reads on; `indent` is the least column of a line that still belongs to the scalar. -/
def readWords (inFlow : Bool) (indent : Nat) (start : Mark) : Nat → Reading →
    Except Flaw Reading
  | 0, p => .ok p
  | fuel + 1, p =>
    let c := p.cursor
    if c.atDocumentBorder ∨ c.rest.head? = some '#' then .ok p
    else
      let (word, clash) := readWord inFlow c.rest
      let after := c.forward word.length
      if clash then after.flaw scanning start "found unexpected ':'"
      else
        let p' : Reading :=
          if word.isEmpty then { p with cursor := after }
          else ⟨p.text ++ p.gap.text ++ word, after.mark, {}, after⟩
        if after.rest.isEmpty ∨ ¬atWordEnd after.rest then .ok p'
        else
          let (gap, c') := Gap.read indent {} after
          match gap.tab with
          | some m =>
            .error (.problem "found a tab character that violates indentation" m
              (some (scanning, start)))
          | none =>
            let p'' := { p' with gap, cursor := c' }
            if ¬inFlow ∧ c'.mark.column < indent then .ok p''
            else readWords inFlow indent start fuel p''

/-- The scalar that starts here. -/
def read (inFlow : Bool) (indent : Nat) (c : Cursor) : Except Flaw Reading :=
  readWords inFlow indent c.mark (c.rest.length + 1) ⟨[], c.mark, {}, c⟩

end FilterQuery.Yaml.Plain
