import FilterQuery.Query
import FilterQuery.ParseTree
import Std.Data.ExtTreeMap

/-!
# Scopes

Queries wait in the scope that encloses them until that scope is reduced. Scopes are
numbered as they are entered; the root, which stands for no enclosing scope, is there from
the start. A scope has an entry from the first query that is registered in it until its
queries are taken.
-/
namespace FilterQuery

/-- The identity of a scope. -/
structure ScopeId where
  index : Nat
  deriving DecidableEq, Repr, Inhabited

namespace ScopeId

def root : ScopeId := ⟨0⟩

def isRoot (s : ScopeId) : Bool := s = root

def text (s : ScopeId) : String := if s.isRoot then "root" else "#" ++ toString s.index

instance : Ord ScopeId := ⟨compareOn index⟩

instance : Std.TransOrd ScopeId := inferInstanceAs (Std.TransCmp (compareOn index))

instance : Std.LawfulEqOrd ScopeId where
  eq_of_compare {a b} h := by
    obtain ⟨i⟩ := a
    obtain ⟨j⟩ := b
    exact congrArg mk (Std.LawfulEqOrd.eq_of_compare (α := Nat) h)

end ScopeId

/-- The scopes that were opened and the queries that wait in scopes. -/
@[ext]
structure Scopes where
  lastOpened : Nat := 0
  children : Std.ExtTreeMap ScopeId (List (Spanned Query)) := ∅

namespace Scopes

/-- Gives an identity to a scope that is entered. -/
def openScope (s : Scopes) : ScopeId × Scopes :=
  (⟨s.lastOpened + 1⟩, { s with lastOpened := s.lastOpened + 1 })

def register (s : Scopes) (id : ScopeId) (q : Spanned Query) : Scopes :=
  { s with children := s.children.alter id fun qs => some (qs.getD [] ++ [q]) }

/-- Everything that was registered in a scope, which loses it. -/
def takeChildren (s : Scopes) (id : ScopeId) : List (Spanned Query) × Scopes :=
  (s.children[id]?.getD [], { s with children := s.children.erase id })

/-- The number of queries that wait in a scope. -/
def pendingCount (s : Scopes) (id : ScopeId) : Nat := (s.children[id]?.map List.length).getD 0

end Scopes

end FilterQuery
