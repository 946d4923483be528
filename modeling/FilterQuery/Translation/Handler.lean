import FilterQuery.Translation.Leaf
import FilterQuery.Translation.Scope

/-!
# Handlers

A handler makes the query of a node that is left: from the node alone, or from the
queries that wait in the node's own scope. A table says which kinds have one.
-/
namespace FilterQuery

/-- A reducer makes the query of a scope from the queries inside it. -/
abbrev Reducer := Setting → Node → List (Spanned Query) → Except Diagnostic Query

inductive Handler
  | leaf (build : Leaf.Builder)
  | scope (reduce : Reducer)

/-- A conjunction or disjunction of at least one query. -/
def reduceJunction (op : Junction) : Reducer := fun s n qs =>
  if qs.isEmpty then s.fail (.emptyScope n.kind) n.span []
  else .ok (.junction op (qs.map (·.value)))

/-- The negation of exactly one query. -/
def reduceNot : Reducer := fun s n qs =>
  match qs with
  | [q] => .ok (.not q.value)
  | qs => s.fail (.notOfMany qs.length) n.span (queryLabels qs)

/-- The handler of each kind that makes a query and is known. -/
def Handler.default? : NodeKind → Option Handler
  | .and => some (.scope (reduceJunction .and))
  | .or => some (.scope (reduceJunction .or))
  | .not => some (.scope reduceNot)
  | k => (Leaf.builder? k).map .leaf

/-- The handlers in use, by kind. -/
structure Handlers where
  table : NodeKind → Option Handler

namespace Handlers

def empty : Handlers := ⟨fun _ => none⟩

/-- A handler for every known kind that makes a query. -/
def default : Handlers := ⟨Handler.default?⟩

instance : Inhabited Handlers := ⟨default⟩

def get? (hs : Handlers) (k : NodeKind) : Option Handler := hs.table k

def has (hs : Handlers) (k : NodeKind) : Bool := (hs.get? k).isSome

/-- The kinds with a handler, in the order of declaration. -/
def kinds (hs : Handlers) : List NodeKind := NodeKind.list.filter hs.has

def size (hs : Handlers) : Nat := hs.kinds.length

def isEmpty (hs : Handlers) : Bool := hs.kinds.isEmpty

def register (hs : Handlers) (k : NodeKind) (h : Handler) : Handlers :=
  ⟨fun k' => if k' = k then some h else hs.table k'⟩

def remove (hs : Handlers) (k : NodeKind) : Handlers :=
  ⟨fun k' => if k' = k then none else hs.table k'⟩

/-- The summary for developers: every kind with a handler, capitalised. -/
def summary (hs : Handlers) : String :=
  "HandlerRegistry \x7b kinds: [" ++ ", ".intercalate (hs.kinds.map (·.name.capitalize)) ++ "] \x7d"

theorem get?_register (hs : Handlers) (k k' : NodeKind) (h : Handler) :
    (hs.register k h).get? k' = if k' = k then some h else hs.get? k' := rfl

theorem get?_remove (hs : Handlers) (k k' : NodeKind) :
    (hs.remove k).get? k' = if k' = k then none else hs.get? k' := rfl

end Handlers

end FilterQuery
