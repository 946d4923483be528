import FilterQuery.ParseTree

/-!
# Building parse trees in code

Each function returns the node with one more part; tokens built this way have no span.
-/
namespace FilterQuery

namespace Node

/-- A token without a span. -/
def bare (text : String) : Token := ⟨text, {}⟩

def spanning (n : Node) (span : Span) : Node := { n with span }

def withAttribute (n : Node) (name : String) : Node := { n with attributeName := some (bare name) }

def withValueToken (n : Node) (t : Token) : Node := { n with values := n.values ++ [t] }

def withValue (n : Node) (text : String) : Node := n.withValueToken (bare text)

def withValues (n : Node) (texts : List String) : Node :=
  { n with values := n.values ++ texts.map bare }

def withFlag (n : Node) (text : String) : Node := { n with flags := n.flags ++ [bare text] }

def withObjectType (n : Node) (name : String) : Node := { n with objectType := some (bare name) }

def withOrderTerm (n : Node) (name : String) (direction : Option String) : Node :=
  { n with orderTerms := n.orderTerms ++ [⟨bare name, direction.map bare⟩] }

def withChildren (n : Node) (children : List Node) : Node :=
  { n with children := n.children ++ children }

def withChild (n : Node) (child : Node) : Node := n.withChildren [child]

end Node

namespace ParseTree

def ofNodes (nodes : List Node) : ParseTree := { nodes }

def withSource (t : ParseTree) (name source : String) : ParseTree := { t with name, source }

end ParseTree

end FilterQuery
