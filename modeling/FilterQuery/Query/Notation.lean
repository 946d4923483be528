import FilterQuery.Query

/-!
# Queries in filter notation

The text of a query is its name and, in parentheses, what it holds: sub-queries, or a
quoted attribute name and values. Object types and ordering keys stand unquoted.
-/
namespace FilterQuery

/-- A name applied to arguments. -/
def applied (name : String) (args : List String) : String :=
  name ++ "(" ++ ", ".intercalate args ++ ")"

namespace Query

/-- The arguments of a range; its flags are shown only when an end is excluded. -/
def boundArguments (lower upper : Bound) : List String :=
  if lower.inclusive ∧ upper.inclusive then [lower.value.text, upper.value.text]
  else
    [lower.value.text, Value.showBool lower.inclusive, upper.value.text,
      Value.showBool upper.inclusive]

mutual

def render : Query → String
  | junction op qs => applied op.name (renderAll qs)
  | not q => applied "not" [render q]
  | compare op a v => applied op.name [Text.quoted a.name, v.text]
  | between a lower upper => applied "between" (Text.quoted a.name :: boundArguments lower upper)
  | oneOf a vs => applied "in" (Text.quoted a.name :: vs.map Value.text)
  | text op a s => applied op.name [Text.quoted a.name, Text.quoted s]
  | matchesRegex a p => applied "matchesRegex" [Text.quoted a.name, Text.quoted p.source]
  | has a => applied "has" [Text.quoted a.name]
  | all t => applied "all" [t.name]
  | none t => applied "none" [t.name]

def renderAll : List Query → List String
  | [] => []
  | q :: qs => render q :: renderAll qs

end

end Query

def Order.render (o : Order) : String :=
  o.key.name ++ " " ++ (if o.descending then "descending" else "ascending")

def Options.render (o : Options) : String :=
  match o.orderBy with
  | none => ""
  | some os => applied "orderBy" (os.map Order.render)

end FilterQuery
