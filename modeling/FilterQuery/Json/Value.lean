import FilterQuery.Decimal.Binary64

/-!
# JSON values

A JSON document as a value. Whole numbers and other numbers are kept apart, as their
texts are; members keep their order and may repeat.
-/
namespace FilterQuery

inductive Json
  | null
  | bool (b : Bool)
  | int (n : Int)
  | float (x : Binary64)
  | string (s : String)
  | array (items : List Json)
  | object (members : List (String × Json))
  deriving Inhabited

namespace Json

/-- A natural number that fits in 64 bits, as a value. -/
def uint (n : UInt64) : Json := .int n.toNat

/-- The members of an object that have the name. -/
def named (name : String) : Json → List Json
  | object ms => (ms.filter fun m => m.1 = name).map (·.2)
  | _ => []

end Json

end FilterQuery
