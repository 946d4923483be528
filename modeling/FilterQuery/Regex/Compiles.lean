import FilterQuery.Regex.Mode
import FilterQuery.Regex.Nesting
import FilterQuery.Regex.Program
import FilterQuery.Regex.Reader

/-!
# Valid regular expressions

A pattern is valid if it writes an expression that does not nest too deep, is allowed in
the modes that its flags set, and compiles to programs that are not too large: one that
finds where a match ends, and one that reads backward from there to its beginning.
-/
namespace FilterQuery.Regex

/-- Whether a term is a choice between so many texts that it is searched for without a
program. -/
def Term.isWordList : Term → Bool
  | .alternation ts => 3000 ≤ ts.length && ts.all fun t => t.text?.isSome
  | _ => false

/-- Whether an expression can be matched within the limits. -/
def Expression.isMatchable (e : Expression) : Bool :=
  e.depth ≤ depthLimit &&
    match e.term? {} with
    | some (t, _) => t.isWordList || (t.program? false).isSome && (t.program? true).isSome
    | none => false

/-- Whether a pattern is a regular expression. -/
def compiles (pattern : String) : Bool := (read? pattern).any Expression.isMatchable

end FilterQuery.Regex
