/-!
# Document formats

A file is read as YAML if its name ends in one of the two YAML extensions, and as JSON
otherwise. The extension of a path is what follows the last dot of its last component,
if something stands before that dot.
-/
namespace FilterQuery

inductive Format
  | json
  | yaml
  deriving DecidableEq, Repr

namespace Format

def name : Format → String
  | json => "json"
  | yaml => "yaml"

/-- The components of a path between its slashes, without empty ones and single dots. -/
def components (path : List Char) : List (List Char) :=
  (path.splitOn '/').filter fun c => c ≠ [] ∧ c ≠ ['.']

/-- The last component of a path, unless it leads upwards. -/
def fileName? (path : List Char) : Option (List Char) :=
  match (components path).getLast? with
  | some c => if c = ['.', '.'] then none else some c
  | none => none

/-- What follows the last dot of a name that does not begin with it. -/
def extension? (name : List Char) : Option (List Char) :=
  let tail := (name.reverse.takeWhile (· ≠ '.')).reverse
  if tail.length + 1 < name.length then some tail else none

def ofPath (path : String) : Format :=
  match (fileName? path.toList).bind extension? with
  | some e => if e = "yaml".toList ∨ e = "yml".toList then yaml else json
  | none => json

end Format

end FilterQuery
