/-!
# Parsed filter expressions

A filter expression arrives as the tree that a grammar engine made of it. Every node and
every token carries its span in the expression, so that a failure can point at it; a
token keeps its text as written, quotes included.
-/
namespace FilterQuery

/-- A range of bytes of the expression. -/
structure Span where
  start : UInt64 := 0
  stop : UInt64 := 0
  deriving DecidableEq, Repr, Inhabited

/-- The bytes to mark, at least one so that the mark can be seen. -/
def Span.markLength (s : Span) : UInt64 := if s.start < s.stop then s.stop - s.start else 1

/-- A value with the span that it was read from. -/
structure Spanned (α : Type) where
  value : α
  span : Span

structure Token where
  text : String
  span : Span := {}
  deriving DecidableEq, Repr, Inhabited

/-- Trees written by hand leave token spans empty; those of the node stand in. -/
def Token.spanOr (t : Token) (fallback : Span) : Span := if t.span = {} then fallback else t.span

/-- The grammar construct of a node; `unknown` stands for any construct without a name
here. -/
inductive NodeKind
  | and
  | or
  | not
  | equal
  | lessThan
  | lessThanOrEqual
  | greaterThan
  | greaterThanOrEqual
  | between
  | betweenVerbose
  | oneOf
  | startsWith
  | endsWith
  | contains
  | isContainedIn
  | matchesRegex
  | has
  | all
  | none
  | orderBy
  | unknown
  deriving DecidableEq, Repr, Inhabited

namespace NodeKind

/-- Every kind once, in the order of declaration. -/
def list : List NodeKind :=
  [.and, .or, .not, .equal, .lessThan, .lessThanOrEqual, .greaterThan, .greaterThanOrEqual,
    .between, .betweenVerbose, .oneOf, .startsWith, .endsWith, .contains, .isContainedIn,
    .matchesRegex, .has, .all, .none, .orderBy, .unknown]

theorem mem_list (k : NodeKind) : k ∈ list := by cases k <;> simp [list]

/-- Boolean scopes collect the queries made beneath them. -/
def isScope : NodeKind → Bool
  | and | or | not => true
  | _ => false

/-- Everything but an ordering clause makes a query. -/
def makesQuery (k : NodeKind) : Bool := k != orderBy

def name : NodeKind → String
  | and => "and"
  | or => "or"
  | not => "not"
  | equal => "equal"
  | lessThan => "lessThan"
  | lessThanOrEqual => "lessThanOrEqual"
  | greaterThan => "greaterThan"
  | greaterThanOrEqual => "greaterThanOrEqual"
  | between => "between"
  | betweenVerbose => "betweenVerbose"
  | oneOf => "in"
  | startsWith => "startsWith"
  | endsWith => "endsWith"
  | contains => "contains"
  | isContainedIn => "isContainedIn"
  | matchesRegex => "matchesRegex"
  | has => "has"
  | all => "all"
  | none => "none"
  | orderBy => "orderBy"
  | unknown => "unknown"

/-- The kind of that name; every other name means an unknown construct. -/
def ofName (s : String) : NodeKind := (list.find? (·.name == s)).getD .unknown

@[simp] theorem ofName_name (k : NodeKind) : ofName k.name = k := by cases k <;> decide

end NodeKind

/-- One term of an ordering clause. -/
structure OrderTerm where
  attributeName : Token
  direction : Option Token := none
  deriving DecidableEq, Repr, Inhabited

/-- A node of the tree. Which fields are in use depends on the kind. -/
structure Node where
  kind : NodeKind
  span : Span := {}
  attributeName : Option Token := none
  values : List Token := []
  flags : List Token := []
  objectType : Option Token := none
  orderTerms : List OrderTerm := []
  children : List Node := []
  deriving Repr, Inhabited

namespace Node

/-- A node of the kind with one attribute name. -/
def leaf (kind : NodeKind) (name : String) : Node :=
  { kind, attributeName := some ⟨name, {}⟩ }

/-- A boolean scope over the children. -/
def scope (kind : NodeKind) (children : List Node) : Node := { kind, children }

end Node

/-- A whole expression: its top-level nodes in order and the text they were read from. -/
structure ParseTree where
  name : String := "query"
  source : String := ""
  nodes : List Node
  deriving Repr, Inhabited

end FilterQuery
