import FilterQuery.Json.Decoder

/-!
# Reading types from JSON values

The counterpart of decoding for a value that has already been read: the same shapes are
accepted, a refusal has no place, and some are worded differently.
-/
namespace FilterQuery.Json

/-- How a value is named in a message. -/
def description : Json → String
  | null => "null"
  | bool b => "boolean `" ++ toString b ++ "`"
  | int n => s!"integer `{n}`"
  | float x => "floating point `" ++ floatText x ++ "`"
  | string s => "string " ++ Text.quoted s
  | array _ => "sequence"
  | object _ => "map"

def typeMessage (expected : String) (j : Json) : String :=
  s!"invalid type: {j.description}, expected {expected}"

/-- A name out of a list of variants. -/
def readVariant {α : Type} (ofName : String → Except String α) : Json → Except String α
  | string s => ofName s
  | object [(k, j)] => do
    let a ← ofName k
    match j with
    | null => return a
    | j => .error (typeMessage "unit" j)
  | object _ => .error "invalid value: map, expected map with a single key"
  | j => .error (typeMessage "string or map" j)

end FilterQuery.Json
