import FilterQuery.Translation.Handler
import FilterQuery.Translation.Result

/-!
# The translator

Nodes are taken in post-order. A node that makes a query is counted, converted by the
handler of its kind and registered in the scope around it; the reducer of a scope takes
its queries out again. Ordering clauses are collected aside. A node that was counted and
not converted fails the translation at once and in every later step.

`Node.walk` drives these events over a tree; a caller with a traversal of its own sends
`openScope` on entering a boolean scope and `exitNode` on leaving any node. A failed
event keeps what it had done.
-/
namespace FilterQuery

/-- Constructs met and queries made from them. -/
structure Coverage where
  encountered : Nat := 0
  converted : Nat := 0
  deriving DecidableEq, Repr

def Coverage.isComplete (c : Coverage) : Bool := c.encountered = c.converted

/-- A node being left: the scope around it, and its own scope when it is one. -/
structure NodeExit where
  node : Node
  scope : ScopeId
  id : ScopeId

/-- How far a translation has come. -/
structure Progress where
  scopes : Scopes := {}
  coverage : Coverage := {}
  orders : List Order := []

/-- An event of the traversal. -/
abbrev Event := EStateM Diagnostic Progress

namespace Progress

/-- Enters a boolean scope and gives it an identity. -/
def openScope : Event ScopeId := fun p =>
  let (id, scopes) := p.scopes.openScope
  .ok id { p with scopes }

def encounter (p : Progress) : Progress :=
  { p with coverage.encountered := p.coverage.encountered + 1 }

/-- Registers a query that was made and counts it. -/
def convert (p : Progress) (scope : ScopeId) (q : Spanned Query) : Progress :=
  { p with
    scopes := p.scopes.register scope q
    coverage.converted := p.coverage.converted + 1 }

/-- Runs a handler on the node; a reducer empties the node's own scope, come what may. -/
def apply (s : Setting) (exit : NodeExit) (h : Handler) (p : Progress) :
    Except Diagnostic Query × Progress :=
  match h with
  | .leaf build => (build s exit.node, p)
  | .scope reduce =>
    let (inner, scopes) := p.scopes.takeChildren exit.id
    (reduce s exit.node inner, { p with scopes })

end Progress

/-- Only boolean scopes may contain nodes. -/
def Node.rejectNested (s : Setting) (n : Node) : Except Diagnostic Unit :=
  match n.children with
  | [] => .ok ()
  | child :: _ =>
    if n.kind.isScope then .ok ()
    else s.fail (.nested n.kind n.children.length) n.span
      [⟨child.span, s!"nested '{child.kind.name}'"⟩]

/-- The word that makes an ordering term descending. -/
def descendingWord : String := "descending"

def isDescending (direction : Option Token) : Bool :=
  direction.any fun t => t.text = descendingWord

namespace Progress

/-- The event that succeeds or fails as told and changes nothing. -/
def expect {α : Type} (e : Except Diagnostic α) : Event α := fun p =>
  match e with
  | .ok a => .ok a p
  | .error d => .error d p

/-- Appends the terms of an ordering clause, up to the first that does not resolve. -/
def collect (s : Setting) (span : Span) : List OrderTerm → Event Unit
  | [] => pure ()
  | t :: ts => do
    let a ← expect (s.resolve t.attributeName .ordered span)
    modify fun p => { p with orders := p.orders ++ [⟨a, isDescending t.direction⟩] }
    collect s span ts

/-- Fails unless every node met so far has been converted. -/
def checkCoverage (s : Setting) (n : Node) : Event Unit := fun p =>
  if p.coverage.isComplete then .ok () p
  else
    .error
      ((Failure.unconverted n.kind p.coverage.encountered p.coverage.converted).report
        s.source n.span []) p

/-- Counts a node and converts it if its kind has a handler. -/
def convertNode (s : Setting) (hs : Handlers) (exit : NodeExit) : Event Unit := do
  modify encounter
  match hs.get? exit.node.kind with
  | none => pure ()
  | some h =>
    let made ← modifyGet (apply s exit h)
    let q ← expect made
    modify fun p => p.convert exit.scope ⟨q, exit.node.span⟩
  checkCoverage s exit.node

/-- Leaves a node. -/
def exitNode (s : Setting) (hs : Handlers) (exit : NodeExit) : Event Unit := do
  expect (exit.node.rejectNested s)
  if exit.node.kind.makesQuery then convertNode s hs exit
  else collect s exit.node.span exit.node.orderTerms

mutual

/-- Walks a node and all beneath it inside `scope`. -/
def walk (s : Setting) (hs : Handlers) : Node → ScopeId → Event Unit
  | ⟨kind, span, name, values, flags, type, terms, children⟩, scope => do
    let node : Node := ⟨kind, span, name, values, flags, type, terms, children⟩
    expect (node.rejectNested s)
    let id ← if kind.isScope then openScope else pure scope
    walkAll s hs children id
    exitNode s hs ⟨node, scope, id⟩

def walkAll (s : Setting) (hs : Handlers) : List Node → ScopeId → Event Unit
  | [], _ => pure ()
  | n :: ns, scope => do
    walk s hs n scope
    walkAll s hs ns scope

end

/-- Walks the top-level nodes of a tree. -/
def walkTree (s : Setting) (hs : Handlers) (t : ParseTree) : Event Unit :=
  walkAll s hs t.nodes .root

/-- Ends the traversal. -/
def finish (p : Progress) (source : Option Source) : Translation :=
  let (roots, _) := p.scopes.takeChildren .root
  { roots, orders := p.orders,
    encountered := p.coverage.encountered, converted := p.coverage.converted, source }

end Progress

/-- Everything but the expression that a translation needs. -/
structure Translator where
  resolver : Resolver
  converter : Converter
  compiles : String → Bool
  objectType : ObjectType
  handlers : Handlers := .default

namespace Translator

def setting (t : Translator) (source : Option Source) : Setting :=
  ⟨t.resolver, t.converter, t.compiles, t.objectType, source⟩

/-- A tree without text has no source to point into. -/
def sourceOf (tree : ParseTree) : Option Source :=
  if tree.source.isEmpty then none else some ⟨tree.name, tree.source⟩

/-- Translates a whole tree. -/
def translation (t : Translator) (tree : ParseTree) : Except Diagnostic Translation :=
  let source := sourceOf tree
  match Progress.walkTree (t.setting source) t.handlers tree {} with
  | .ok _ p => .ok (p.finish source)
  | .error d _ => .error d

/-- The query and the options of a tree. -/
def translate (t : Translator) (tree : ParseTree) : Except Diagnostic ParseResult := do
  let done ← t.translation tree
  done.result

/-- The query of a tree, without its options. -/
def query (t : Translator) (tree : ParseTree) : Except Diagnostic Query :=
  (t.translate tree).map (·.query)

end Translator

end FilterQuery
