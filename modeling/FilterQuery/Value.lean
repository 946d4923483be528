import FilterQuery.Attribute
import FilterQuery.Decimal.Shortest
import FilterQuery.Text.Escaped

/-!
# Typed values

The literals of a query. Equality of values is numeric on floats, so a NaN equals
nothing, and values of different types are never equal.
-/
namespace FilterQuery

inductive Value
  | integer (n : Int64)
  | float (x : Binary64)
  | bool (b : Bool)
  | string (s : String)
  deriving Inhabited

namespace Value

def valueType : Value → ValueType
  | integer _ => .integer
  | float _ => .float
  | bool _ => .bool
  | string _ => .string

def string? : Value → Option String
  | string s => some s
  | _ => none

def bool? : Value → Option Bool
  | bool b => some b
  | _ => none

def eq : Value → Value → Bool
  | integer a, integer b => a == b
  | float x, float y => x == y
  | bool a, bool b => a == b
  | string s, string t => s == t
  | _, _ => false

instance : BEq Value := ⟨eq⟩

/-- Floats are shown positionally from `10^-4` up to below `10^16`. -/
def floatLayout : Decimal.Layout := ⟨-4, 16, "", .up⟩

def showFloat : Binary64 → String
  | .nan => "NaN"
  | .infinite negative => if negative then "-inf" else "inf"
  | .finite negative m q _ => floatLayout.finite negative m q

def showBool (b : Bool) : String := if b then "true" else "false"

/-- The notation of a value in a filter expression. -/
def text : Value → String
  | integer n => toString n.toInt
  | float x => showFloat x
  | bool b => showBool b
  | string s => Text.quoted s

end Value

end FilterQuery
