import FilterQuery.Json.Value
import FilterQuery.Query

/-!
# Queries as JSON

A query is an object whose `type` is its name, followed by what it holds. Values stand
for themselves.
-/
namespace FilterQuery

def Value.toJson : Value → Json
  | .integer n => .int n.toInt
  | .float x => if x.isFinite then .float x else .null
  | .bool b => .bool b
  | .string s => .string s

def Attribute.toJson (a : Attribute) : Json :=
  .object [("name", .string a.name), ("value_type", .string a.valueType.keyword)]

namespace Query

/-- An object of the type with the given members. -/
def tagged (type : String) (members : List (String × Json)) : Json :=
  .object (("type", .string type) :: members)

mutual

def toJson : Query → Json
  | junction op qs => tagged op.name [("children", .array (toJsons qs))]
  | not q => tagged "not" [("child", toJson q)]
  | compare op a v => tagged op.name [("attribute", a.toJson), ("value", v.toJson)]
  | between a lower upper =>
    tagged "between" [("attribute", a.toJson), ("lower", lower.value.toJson),
      ("lowerInclusive", .bool lower.inclusive), ("upper", upper.value.toJson),
      ("upperInclusive", .bool upper.inclusive)]
  | oneOf a vs =>
    tagged "in" [("attribute", a.toJson), ("values", .array (vs.map Value.toJson))]
  | text op a s => tagged op.name [("attribute", a.toJson), ("text", .string s)]
  | matchesRegex a p =>
    tagged "matchesRegex" [("attribute", a.toJson), ("pattern", .string p.source)]
  | has a => tagged "has" [("attribute", a.toJson)]
  | all t => tagged "all" [("object_type", .string t.name)]
  | none t => tagged "none" [("object_type", .string t.name)]

def toJsons : List Query → List Json
  | [] => []
  | q :: qs => toJson q :: toJsons qs

end

end Query

def Order.toJson (o : Order) : Json :=
  .object [("attribute", o.key.toJson), ("descending", .bool o.descending)]

def Options.toJson (o : Options) : Json :=
  .object (match o.orderBy with
    | none => []
    | some os => [("orderBy", .array (os.map Order.toJson))])

def ParseResult.toJson (r : ParseResult) : Json :=
  .object [("query", r.query.toJson), ("options", r.options.toJson)]

end FilterQuery
