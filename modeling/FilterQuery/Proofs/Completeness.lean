import FilterQuery.Proofs.Session
import FilterQuery.Proofs.Stop

/-!
# Every node counts

A walk over a whole tree that succeeds has made a query of every node that makes one, and
the queries have as many nodes as the tree, at every depth. A walk that fails has converted
the nodes before its stop, and has counted one more if the stop is a node that no query
could be made of.
-/
namespace FilterQuery

namespace Node

/-- The query was made of the node and has as many nodes as stand in and beneath it; the
queries directly inside it were made of the nodes directly inside that one, in order. -/
inductive Covered (s : Setting) (removed : List NodeKind) : Node → Query → Prop
  | intro {n : Node} {q : Query} {before : Nat} {os : List Order}
      (read : n.reading s removed before = .ok ⟨[⟨q, n.span⟩], os⟩)
      (count : q.nodeCount = n.queryCount)
      (inside : List.Forall₂ (Covered s removed) (n.children.filter (·.kind.makesQuery))
        q.children) :
      Covered s removed n q

section
variable {s : Setting} {removed : List NodeKind}

theorem Forms.children_eq {n : Node} {inner : List (Spanned Query)} {q : Query}
    (h : n.Forms s inner q) :
    q.children = if n.kind.isScope then inner.map (·.value) else [] := by
  cases h with
  | and kind _ => simp [kind, NodeKind.isScope, Query.children]
  | or kind _ => simp [kind, NodeKind.isScope, Query.children]
  | not kind inside => simp [kind, NodeKind.isScope, Query.children, inside]
  | predicate accepts =>
    rw [accepts.children_eq_nil, accepts.isScope_eq_false]
    rfl

theorem filter_makesQuery_cons (n : Node) (ns : List Node) :
    (n :: ns).filter (·.kind.makesQuery) =
      (if n.kind = .orderBy then [] else [n]) ++ ns.filter (·.kind.makesQuery) := by
  by_cases hk : n.kind = .orderBy <;> simp [hk, NodeKind.makesQuery]

mutual

theorem covered_of_reading (n : Node) {before : Nat} {r : Reading}
    (h : n.reading s removed before = .ok r) :
    List.Forall₂ (Covered s removed) (if n.kind = .orderBy then [] else [n])
        (r.queries.map (·.value)) ∧
      Scopes.weight r.queries = n.queryCount := by
  match n with
  | ⟨kind, span, name, values, flags, type, terms, children⟩ =>
    generalize hn : (⟨kind, span, name, values, flags, type, terms, children⟩ : Node) = n at h
    have hc : n.children = children := by rw [← hn]
    cases says_of_reading h with
    | @scope inner q isScope inside query =>
      rw [hc] at inside
      obtain ⟨covered, weight⟩ := covered_of_readingAll children inside
      have forms := (readQuery_eq_ok.1 query).2
      have order := NodeKind.ne_orderBy_of_isScope isScope
      have count : q.nodeCount = n.queryCount := by
        rw [forms.nodeCount_eq, if_pos isScope, weight, queryCount_eq, if_neg order, hc,
          Nat.add_comm]
      rw [if_neg order]
      refine ⟨.cons (.intro h count ?_) .nil, by simpa using count⟩
      rw [forms.children_eq, if_pos isScope, hc]
      exact covered
    | @leaf q notScope order noChildren query =>
      have forms := (readQuery_eq_ok.1 query).2
      have count : q.nodeCount = n.queryCount := by
        rw [forms.nodeCount_eq, if_neg notScope, queryCount_eq, if_neg order, noChildren,
          queryCountAll]
      rw [if_neg order]
      refine ⟨.cons (.intro h count ?_) .nil, by simpa using count⟩
      rw [forms.children_eq, if_neg notScope, noChildren]
      exact .nil
    | clause order noChildren _ =>
      rw [if_pos order, queryCount_eq, if_pos order, noChildren]
      exact ⟨.nil, rfl⟩

theorem covered_of_readingAll (ns : List Node) {before : Nat} {r : Reading}
    (h : readingAll s removed ns before = .ok r) :
    List.Forall₂ (Covered s removed) (ns.filter (·.kind.makesQuery)) (r.queries.map (·.value)) ∧
      Scopes.weight r.queries = queryCountAll ns := by
  match ns with
  | [] =>
    cases h
    exact ⟨.nil, rfl⟩
  | n :: ns =>
    obtain ⟨r₁, r₂, h₁, h₂, rfl⟩ := readingAll_cons_eq_ok.1 h
    obtain ⟨first, weight⟩ := covered_of_reading n h₁
    obtain ⟨rest, weight'⟩ := covered_of_readingAll ns h₂
    rw [filter_makesQuery_cons, queryCountAll, Reading.append, List.map_append,
      Scopes.weight_append, weight, weight']
    exact ⟨List.rel_append first rest, rfl⟩

end

end

end Node

namespace Progress

/-- All of the tree was converted, and its queries wait at the root. -/
structure Covers (s : Setting) (removed : List NodeKind) (tree : ParseTree) (p : Progress) :
    Prop where
  encountered : p.coverage.encountered = Node.queryCountAll tree.nodes
  converted : p.coverage.converted = Node.queryCountAll tree.nodes
  weight : Scopes.weight (p.scopes.pending .root) = Node.queryCountAll tree.nodes
  roots : List.Forall₂ (Node.Covered s removed) (tree.nodes.filter (·.kind.makesQuery))
    ((p.scopes.pending .root).map (·.value))

theorem covers_of_walkTree {s : Setting} {removed : List NodeKind} {tree : ParseTree}
    {p : Progress} (h : walkTree s (.without removed) tree {} = .ok () p) :
    Covers s removed tree p := by
  have follows := walkTree_follows s removed tree
  rw [h] at follows
  generalize hr : Node.readingAll s removed tree.nodes 0 = reading at follows
  cases follows with
  | ok r =>
    obtain ⟨covered, weight⟩ := Node.covered_of_readingAll tree.nodes hr
    have waiting : (({} : Progress).advance .root r (Node.queryCountAll tree.nodes)
        (Node.scopeCountAll tree.nodes)).scopes.pending .root = r.queries := by
      simp only [advance, Scopes.pending_grown, if_pos]
      rfl
    refine ⟨by simp [advance], by simp [advance], ?_, ?_⟩
    · rw [waiting, weight]
    · rw [waiting]
      exact covered

end Progress

namespace Translator

/-- A walk over a tree makes and counts one query for every node that makes one, or stops
and has counted those before its stop, with the node itself if that failed to convert. A
translated query has as many nodes as the tree has nodes that make a query. -/
theorem walkTree_counts (t : Translator) (removed : List NodeKind) (tree : ParseTree)
    (source : Option Source) :
    let s := t.setting source
    (match Progress.walkTree s (.without removed) tree {} with
      | .ok _ p => p.Covers s removed tree
      | .error d p =>
        ∃ stop : Stop, stop.Within s removed 0 tree.entries d ∧
          p.coverage.converted = stop.queries ∧
          p.coverage.encountered =
            p.coverage.converted + if stop.obstacle = .conversion then 1 else 0) ∧
      ∀ r, { t with handlers := .without removed }.translate tree = .ok r →
        r.query.nodeCount = Node.queryCountAll tree.nodes := by
  intro s
  constructor
  · cases h : Progress.walkTree s (.without removed) tree {} with
    | ok u p => exact Progress.covers_of_walkTree h
    | error d p =>
      have complete : ({} : Progress).Complete := rfl
      obtain ⟨⟨stop, within, halts⟩, -⟩ :=
        Progress.walkAll_stops tree.nodes [] 0 .root complete Scopes.tidy_empty.hosts_root h
      have converted := halts.converted
      rw [Nat.zero_add] at converted
      exact ⟨stop, within, converted, halts.encountered⟩
  · intro r h
    obtain ⟨done, translated, result⟩ := bind_eq_ok.1 h
    obtain ⟨reading, read, roots, -⟩ := exists_reading_of_translation translated
    obtain ⟨q, single, rfl⟩ := Translation.result_eq_ok.1 result
    have weight := (Node.covered_of_readingAll tree.nodes read).2
    rw [← roots, single] at weight
    simpa using weight

/-- Two nested scopes, with an ordering clause in the inner one. -/
def nestedTree : ParseTree where
  nodes := [.scope .not [.scope .and [.leaf .has "name",
    { kind := .orderBy, orderTerms := [⟨⟨"age", {}⟩, none⟩] }, .leaf .has "age"]]]

theorem walkTree_counts_nested :
    ∃ r, { ofText ⟨"person"⟩ with handlers := .without [.between] }.translate nestedTree = .ok r ∧
      r.query.nodeCount = Node.queryCountAll nestedTree.nodes :=
  ⟨_, rfl, (walkTree_counts (ofText ⟨"person"⟩) [.between] nestedTree none).2 _ rfl⟩

end Translator

end FilterQuery
