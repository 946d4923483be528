import FilterQuery.Json.Value
import FilterQuery.ParseTree

/-!
# Parse trees as JSON

Tokens are written in full, with their spans. Absent options and empty lists are left
out; spans never are.
-/
namespace FilterQuery

def Span.toJson (s : Span) : Json := .object [("start", .uint s.start), ("end", .uint s.stop)]

def Token.toJson (t : Token) : Json := .object [("text", .string t.text), ("span", t.span.toJson)]

/-- A member for a value that may be absent. -/
def optionalMember (key : String) : Option Json → List (String × Json)
  | none => []
  | some j => [(key, j)]

/-- A member for a list, unless it is empty. -/
def listMember (key : String) : List Json → List (String × Json)
  | [] => []
  | js => [(key, .array js)]

def OrderTerm.toJson (t : OrderTerm) : Json :=
  .object (("attribute", t.attributeName.toJson)
    :: optionalMember "direction" (t.direction.map Token.toJson))

namespace Node

mutual

def toJson : Node → Json
  | ⟨kind, span, name, values, flags, type, terms, children⟩ =>
    .object ([("kind", .string kind.name), ("span", span.toJson)]
      ++ optionalMember "attribute" (name.map Token.toJson)
      ++ listMember "values" (values.map Token.toJson)
      ++ listMember "flags" (flags.map Token.toJson)
      ++ optionalMember "objectType" (type.map Token.toJson)
      ++ listMember "orderTerms" (terms.map OrderTerm.toJson)
      ++ listMember "children" (toJsons children))

def toJsons : List Node → List Json
  | [] => []
  | n :: ns => toJson n :: toJsons ns

end

end Node

def ParseTree.toJson (t : ParseTree) : Json :=
  .object [("name", .string t.name), ("source", .string t.source),
    ("nodes", .array (Node.toJsons t.nodes))]

end FilterQuery
