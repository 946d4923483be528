import FilterQuery.Value

/-!
# Queries

A query is a tree of boolean connectives over predicates. Each predicate holds a
resolved attribute and values of that attribute's type, or the object type that it
selects. Options that go with a query are the terms of its ordering clauses.
-/
namespace FilterQuery

/-- The type of the objects that a query selects. -/
structure ObjectType where
  name : String
  deriving DecidableEq, Repr, Inhabited

/-- A regular expression, known by its source. -/
structure Pattern where
  source : String
  deriving DecidableEq, Repr, Inhabited

/-- The connectives of any number of queries. -/
inductive Junction
  | and
  | or
  deriving DecidableEq, Repr

/-- Predicates that compare an attribute with one value. -/
inductive Comparison
  | equal
  | lessThan
  | lessThanOrEqual
  | greaterThan
  | greaterThanOrEqual
  deriving DecidableEq, Repr

/-- Predicates that test the text of an attribute against a text. -/
inductive TextTest
  | startsWith
  | endsWith
  | contains
  | isContainedIn
  deriving DecidableEq, Repr

/-- One end of a range. -/
structure Bound where
  value : Value
  inclusive : Bool := true

inductive Query
  | junction (op : Junction) (children : List Query)
  | not (child : Query)
  | compare (op : Comparison) (a : Attribute) (v : Value)
  | between (a : Attribute) (lower upper : Bound)
  /-- Membership; no value equals an earlier one. -/
  | oneOf (a : Attribute) (values : List Value)
  | text (op : TextTest) (a : Attribute) (s : String)
  | matchesRegex (a : Attribute) (p : Pattern)
  | has (a : Attribute)
  | all (t : ObjectType)
  | none (t : ObjectType)

def Junction.name : Junction → String
  | and => "and"
  | or => "or"

def Comparison.name : Comparison → String
  | equal => "equal"
  | lessThan => "lessThan"
  | lessThanOrEqual => "lessThanOrEqual"
  | greaterThan => "greaterThan"
  | greaterThanOrEqual => "greaterThanOrEqual"

def TextTest.name : TextTest → String
  | startsWith => "startsWith"
  | endsWith => "endsWith"
  | contains => "contains"
  | isContainedIn => "isContainedIn"

namespace Query

instance : Inhabited Query := ⟨.junction .and []⟩

/-- Appends a value unless an equal one is there. -/
def addDistinct (seen : List Value) (v : Value) : List Value :=
  if seen.any (· == v) then seen else seen ++ [v]

/-- The values without those that equal an earlier one that was kept. -/
def distinct (vs : List Value) : List Value := vs.foldl addDistinct []

/-- Membership in the distinct ones of the values. -/
def isIn (a : Attribute) (vs : List Value) : Query := .oneOf a (distinct vs)

theorem distinct_append (xs ys : List Value) :
    distinct (xs ++ ys) = ys.foldl addDistinct (distinct xs) := by
  simp [distinct]

/-- The name in filter notation. -/
def name : Query → String
  | junction op _ => op.name
  | not _ => "not"
  | compare op _ _ => op.name
  | between .. => "between"
  | oneOf .. => "in"
  | text op _ _ => op.name
  | matchesRegex .. => "matchesRegex"
  | has _ => "has"
  | all _ => "all"
  | none _ => "none"

/-- The direct sub-queries. -/
def children : Query → List Query
  | junction _ qs => qs
  | not q => [q]
  | _ => []

mutual

/-- The number of nodes, the root included. -/
def nodeCount : Query → Nat
  | junction _ qs => 1 + totalCount qs
  | not q => 1 + nodeCount q
  | _ => 1

/-- The number of nodes of all the queries. -/
def totalCount : List Query → Nat
  | [] => 0
  | q :: qs => nodeCount q + totalCount qs

end

theorem totalCount_append (qs qs' : List Query) :
    totalCount (qs ++ qs') = totalCount qs + totalCount qs' := by
  induction qs with
  | nil => simp [totalCount]
  | cons q qs ih => simp [totalCount, ih, Nat.add_assoc]

theorem nodeCount_eq (q : Query) : q.nodeCount = 1 + totalCount q.children := by
  cases q <;> simp [nodeCount, children, totalCount]

mutual

/-- Equality that compares values numerically. -/
def eq : Query → Query → Bool
  | junction op qs, junction op' qs' => op == op' && eqAll qs qs'
  | not q, not q' => eq q q'
  | compare op a v, compare op' a' v' => op == op' && a == a' && v == v'
  | between a l u, between a' l' u' =>
    a == a' && l.value == l'.value && l.inclusive == l'.inclusive
      && u.value == u'.value && u.inclusive == u'.inclusive
  | oneOf a vs, oneOf a' vs' => a == a' && vs == vs'
  | text op a s, text op' a' s' => op == op' && a == a' && s == s'
  | matchesRegex a p, matchesRegex a' p' => a == a' && p == p'
  | has a, has a' => a == a'
  | all t, all t' => t == t'
  | none t, none t' => t == t'
  | _, _ => false

def eqAll : List Query → List Query → Bool
  | [], [] => true
  | q :: qs, q' :: qs' => eq q q' && eqAll qs qs'
  | _, _ => false

end

instance : BEq Query := ⟨eq⟩

end Query

/-- One term of an ordering. -/
structure Order where
  key : Attribute
  descending : Bool
  deriving DecidableEq, Repr

/-- What goes with a query. -/
structure Options where
  orderBy : Option (List Order) := none
  deriving DecidableEq, Repr

namespace Options

def isEmpty (o : Options) : Bool := o.orderBy.isNone

def orders (o : Options) : List Order := o.orderBy.getD []

/-- No options at all when there are no terms. -/
def ofOrders : List Order → Options
  | [] => {}
  | os => { orderBy := some os }

@[simp] theorem orders_ofOrders (os : List Order) : (ofOrders os).orders = os := by
  cases os <;> rfl

@[simp] theorem isEmpty_ofOrders (os : List Order) : (ofOrders os).isEmpty = os.isEmpty := by
  cases os <;> rfl

end Options

/-- A translated expression. -/
structure ParseResult where
  query : Query
  options : Options

end FilterQuery
