import FilterQuery.ParseTree
import FilterQuery.RecordForm

/-!
# The records of a parse tree

The forms of spans, ordering terms, nodes and trees, the same in every format. Trees,
nodes and ordering terms refuse other fields; spans pass them over.
-/
namespace FilterQuery

namespace Span

structure Draft where
  start : Option UInt64 := none
  stop : Option UInt64 := none

def form : RecordForm Draft Span where
  title := "struct Span"
  fields := ["start", "end"]
  closed := false
  empty := {}
  finish d :=
    match d.start, d.stop with
    | some a, some b => .ok ⟨a, b⟩
    | none, _ => .error "start"
    | _, none => .error "end"

end Span

/-- What is said of a token that has neither of its two forms. -/
def Token.mismatch : String := "data did not match any variant of untagged enum TokenRepr"

namespace OrderTerm

structure Draft where
  attributeName : Option Token := none
  direction : Option Token := none

def form : RecordForm Draft OrderTerm where
  title := "struct OrderTerm"
  fields := ["attribute", "direction"]
  closed := true
  empty := {}
  finish d :=
    match d.attributeName with
    | some a => .ok ⟨a, d.direction⟩
    | none => .error "attribute"

end OrderTerm

namespace Node

structure Draft where
  kind : Option NodeKind := none
  node : Node := { kind := .unknown }

def form : RecordForm Draft Node where
  title := "struct ParseNode"
  fields := ["kind", "span", "attribute", "values", "flags", "objectType", "orderTerms",
    "children"]
  closed := true
  empty := {}
  finish d :=
    match d.kind with
    | some k => .ok { d.node with kind := k }
    | none => .error "kind"

end Node

namespace ParseTree

structure Draft where
  name : String := "query"
  source : String := ""
  nodes : Option (List Node) := none

def form : RecordForm Draft ParseTree where
  title := "struct ParseTree"
  fields := ["name", "source", "nodes"]
  closed := true
  empty := {}
  finish d :=
    match d.nodes with
    | some ns => .ok ⟨d.name, d.source, ns⟩
    | none => .error "nodes"

end ParseTree

end FilterQuery
