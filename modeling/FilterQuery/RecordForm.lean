/-!
# Forms of records

What decoding a record needs to know in any format: the names of its fields, what it is
called in messages, whether other names are refused, and how the record is put together
from the fields that were found.
-/
namespace FilterQuery

/-- The form of a record of type `α`, whose fields are gathered in a draft of type `σ`. -/
structure RecordForm (σ α : Type) where
  title : String
  fields : List String
  /-- Whether a field with another name is refused. -/
  closed : Bool
  empty : σ
  /-- The record, or the first required field that is missing. -/
  finish : σ → Except String α

namespace RecordForm

variable {σ α : Type}

/-- The names that were expected, for a message. -/
def expectedNames : List String → String
  | [] => "there are no fields"
  | [a] => s!"expected `{a}`"
  | [a, b] => s!"expected `{a}` or `{b}`"
  | names => "expected one of " ++ ", ".intercalate (names.map fun n => s!"`{n}`")

def unknownField (f : RecordForm σ α) (name : String) : String :=
  s!"unknown field `{name}`, {expectedNames f.fields}"

def duplicateField (name : String) : String := s!"duplicate field `{name}`"

def missingField (name : String) : String := s!"missing field `{name}`"

end RecordForm

end FilterQuery
