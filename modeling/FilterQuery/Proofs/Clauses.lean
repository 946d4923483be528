import FilterQuery.Proofs.Walk

/-!
# Ordering clauses

An ordering clause adds its terms to the ordering of the whole expression and has no part in
any query. Clauses may be taken out of a tree that is translated, and others put in, at the
top or inside a scope at any depth: the queries and the counters stay, and the ordering is
that of the clauses which the tree then has.
-/
namespace FilterQuery

/-- The term says the order: its name resolves to an attribute of an ordered type, and one
word alone makes it descending. -/
def OrderTerm.Means (r : Resolver) (t : OrderTerm) (o : Order) : Prop :=
  r t.attributeName.text .ordered = .ok o.key ∧
    (o.descending ↔ ∃ d, t.direction = some d ∧ d.text = "descending")

theorem isDescending_iff {direction : Option Token} :
    isDescending direction ↔ ∃ d, direction = some d ∧ d.text = "descending" := by
  cases direction with
  | none => simp [isDescending]
  | some d =>
    simp only [isDescending, Option.any_some, decide_eq_true_eq, Option.some.injEq,
      exists_eq_left']
    rfl

/-- A term says one order at most. -/
theorem OrderTerm.rightUnique_means (r : Resolver) : Relator.RightUnique (OrderTerm.Means r) := by
  rintro t ⟨key, descending⟩ ⟨key', descending'⟩ ⟨found, direction⟩ ⟨found', direction'⟩
  obtain rfl : key = key' := Except.ok.inj (found.symm.trans found')
  have same : descending = descending' := Bool.eq_iff_iff.2 (direction.trans direction'.symm)
  rw [same]

namespace Setting

variable {s : Setting} {span : Span} {ts : List OrderTerm} {os : List Order}

theorem readTerm_eq_ok_iff_means {t : OrderTerm} {o : Order} :
    s.readTerm span t = .ok o ↔ t.Means s.resolver o := by
  rw [readTerm_eq_ok, OrderTerm.Means, ← isDescending_iff, Bool.eq_iff_iff]

/-- A clause is read term by term, with none left out, merged or moved. -/
theorem readTerms_eq_ok :
    s.readTerms span ts = .ok os ↔ List.Forall₂ (OrderTerm.Means s.resolver) ts os := by
  induction ts generalizing os with
  | nil =>
    constructor
    · intro h
      cases h
      exact .nil
    · rintro ⟨⟩
      rfl
  | cons t ts ih =>
    simp only [readTerms_cons_eq_ok, List.forall₂_cons_left_iff, readTerm_eq_ok_iff_means, ih]

variable (span) in
theorem exists_readTerms (h : ∀ t ∈ ts, ∃ a, s.resolver t.attributeName.text .ordered = .ok a) :
    ∃ os, s.readTerms span ts = .ok os := by
  induction ts with
  | nil => exact ⟨[], rfl⟩
  | cons t ts ih =>
    obtain ⟨a, ha⟩ := h t List.mem_cons_self
    obtain ⟨os, hos⟩ := ih fun u hu => h u (List.mem_cons_of_mem t hu)
    exact ⟨⟨a, isDescending t.direction⟩ :: os,
      readTerms_cons_eq_ok.2 ⟨_, os, readTerm_eq_ok.2 ⟨ha, rfl⟩, hos, rfl⟩⟩

end Setting

namespace Node

mutual

/-- The ordering clauses in a node, in document order. -/
def clauses : Node → List Node
  | ⟨kind, span, name, values, flags, type, terms, children⟩ =>
    clausesAll children ++
      if kind = .orderBy then [⟨kind, span, name, values, flags, type, terms, children⟩] else []

def clausesAll : List Node → List Node
  | [] => []
  | n :: ns => clauses n ++ clausesAll ns

end

/-- The terms of all ordering clauses, in document order. -/
def orderTermsAll (ns : List Node) : List OrderTerm := (clausesAll ns).flatMap (·.orderTerms)

theorem clauses_eq (n : Node) :
    n.clauses = clausesAll n.children ++ if n.kind = .orderBy then [n] else [] := by
  cases n
  rw [clauses]

@[simp] theorem clausesAll_append (ns ms : List Node) :
    clausesAll (ns ++ ms) = clausesAll ns ++ clausesAll ms := by
  induction ns with
  | nil => simp [clausesAll]
  | cons n ns ih => simp [clausesAll, ih]

/-- An ordering clause that can be read wherever it stands among others. -/
structure IsClause (r : Resolver) (n : Node) : Prop where
  kind : n.kind = .orderBy
  children : n.children = []
  terms : ∀ t ∈ n.orderTerms, ∃ a, r t.attributeName.text .ordered = .ok a

/-- The second nodes are the first after ordering clauses were taken out and put in, anywhere
among them and among the children of the scopes beneath. -/
inductive Edits (r : Resolver) : List Node → List Node → Prop
  | nil : Edits r [] []
  | keep (n : Node) {ns ns' : List Node} (rest : Edits r ns ns') :
      Edits r (n :: ns) (n :: ns')
  | inside {n : Node} {children ns ns' : List Node} (scope : n.kind.isScope)
      (inner : Edits r n.children children) (rest : Edits r ns ns') :
      Edits r (n :: ns) ({ n with children } :: ns')
  | remove {clause : Node} {ns ns' : List Node} (kind : clause.kind = .orderBy)
      (rest : Edits r ns ns') : Edits r (clause :: ns) ns'
  | insert {clause : Node} {ns ns' : List Node} (isClause : clause.IsClause r)
      (rest : Edits r ns ns') : Edits r ns (clause :: ns')

/-- The second nodes are the first with one more, anywhere among them or among the children of
a scope beneath. -/
inductive Inserts (m : Node) : List Node → List Node → Prop
  | here (front back : List Node) : Inserts m (front ++ back) (front ++ m :: back)
  | inside (front back : List Node) {n : Node} {children : List Node} (scope : n.kind.isScope)
      (inner : Inserts m n.children children) :
      Inserts m (front ++ n :: back) (front ++ { n with children } :: back)

section
variable {r : Resolver}

theorem Edits.refl (ns : List Node) : Edits r ns ns := by
  induction ns with
  | nil => exact .nil
  | cons n ns ih => exact .keep n ih

theorem Edits.append_left (front : List Node) {ns ns' : List Node} (h : Edits r ns ns') :
    Edits r (front ++ ns) (front ++ ns') := by
  induction front with
  | nil => exact h
  | cons n front ih => exact .keep n ih

theorem Inserts.edits {m : Node} {ns ns' : List Node} (h : Inserts m ns ns')
    (clause : m.IsClause r) : Edits r ns ns' := by
  induction h with
  | here front back => exact .append_left front (.insert clause (.refl back))
  | inside front back scope _ ih => exact .append_left front (.inside scope ih (.refl back))

/-- A clause that is put in stands between the clauses before and after its place. -/
theorem Inserts.exists_clauses {m : Node} {ns ns' : List Node} (h : Inserts m ns ns')
    (kind : m.kind = .orderBy) (children : m.children = []) :
    ∃ before after, clausesAll ns = before ++ after ∧ clausesAll ns' = before ++ m :: after := by
  induction h with
  | here front back =>
    refine ⟨clausesAll front, clausesAll back, clausesAll_append .., ?_⟩
    simp [clausesAll, clauses_eq m, kind, children]
  | @inside front back n cs scope inner ih =>
    obtain ⟨before, after, old, new⟩ := ih
    have order : n.kind ≠ .orderBy := NodeKind.ne_orderBy_of_isScope scope
    refine ⟨clausesAll front ++ before, after ++ clausesAll back, ?_, ?_⟩
    · simp [clausesAll, clauses_eq n, order, old]
    · simp [clausesAll, clauses_eq { n with children := cs }, order, new]

end

/-! ## Readings -/

section
variable {s : Setting} {removed : List NodeKind}

/-- The query of a scope is formed from what is inside it, whatever nodes that came from. -/
theorem readQuery_of_children {n : Node} {before : Nat} {inner : List (Spanned Query)}
    {q : Query} (scope : n.kind.isScope) (h : n.readQuery s removed before inner = .ok q)
    (children : List Node) (before' : Nat) :
    { n with children }.readQuery s removed before' inner = .ok q := by
  obtain ⟨handled, forms⟩ := readQuery_eq_ok.1 h
  refine readQuery_eq_ok.2 ⟨handled, ?_⟩
  cases forms with
  | and kind inside => exact .and kind inside
  | or kind inside => exact .or kind inside
  | not kind inside => exact .not kind inside
  | predicate accepts =>
    obtain ⟨build, hb, -⟩ := Leaf.exists_builder_of_accepts accepts
    cases hk : n.kind <;> simp [hk, NodeKind.isScope, Leaf.builder?] at scope hb

variable (removed) in
theorem reading_of_isClause {n : Node} (h : n.IsClause s.resolver) :
    ∃ os, ∀ before, n.reading s removed before = .ok { orders := os } := by
  obtain ⟨os, terms⟩ := Setting.exists_readTerms n.span h.terms
  exact ⟨os, fun before => reading_of_says (.clause h.kind h.children terms)⟩

/-- Edited nodes are read with the same queries. -/
theorem readingAll_of_edits {ns ns' : List Node} (h : Edits s.resolver ns ns') {before : Nat}
    {r : Reading} (hr : readingAll s removed ns before = .ok r) :
    queryCountAll ns' = queryCountAll ns ∧
      ∃ os, ∀ before', readingAll s removed ns' before' = .ok ⟨r.queries, os⟩ := by
  induction h generalizing before r with
  | nil =>
    cases hr
    exact ⟨rfl, [], fun _ => rfl⟩
  | keep n _ ih =>
    obtain ⟨r₁, r₂, own, rest, rfl⟩ := readingAll_cons_eq_ok.1 hr
    obtain ⟨count, os, others⟩ := ih rest
    refine ⟨by rw [queryCountAll, queryCountAll, count], r₁.orders ++ os, fun before' => ?_⟩
    exact readingAll_cons_eq_ok.2 ⟨r₁, _, reading_withSource n own s.source before', others _, rfl⟩
  | @inside n children ns ns' scope _ _ inner ih =>
    obtain ⟨r₁, r₂, own, rest, rfl⟩ := readingAll_cons_eq_ok.1 hr
    obtain ⟨count, os, others⟩ := ih rest
    have order : n.kind ≠ .orderBy := NodeKind.ne_orderBy_of_isScope scope
    cases says_of_reading own with
    | scope _ read query =>
      obtain ⟨innerCount, os', reread⟩ := inner read
      refine ⟨?_, os' ++ os, fun before' => ?_⟩
      · simp only [queryCountAll, queryCount_eq, count, innerCount]
      · have edited := Says.scope (n := { n with children }) scope (reread before')
          (readQuery_of_children scope query children _)
        exact readingAll_cons_eq_ok.2 ⟨_, _, reading_of_says edited, others _, rfl⟩
    | leaf leaf => exact absurd scope leaf
    | clause kind => exact absurd kind order
  | @remove clause ns ns' kind _ ih =>
    obtain ⟨r₁, r₂, own, rest, rfl⟩ := readingAll_cons_eq_ok.1 hr
    obtain ⟨count, os, others⟩ := ih rest
    cases says_of_reading own with
    | scope scope => exact absurd kind (NodeKind.ne_orderBy_of_isScope scope)
    | leaf _ order => exact absurd kind order
    | clause _ childless _ =>
      refine ⟨?_, os, fun before' => others before'⟩
      rw [count, queryCountAll, queryCount_eq, if_pos kind, childless, queryCountAll]
      omega
  | @insert clause ns ns' isClause _ ih =>
    obtain ⟨count, os, others⟩ := ih hr
    obtain ⟨own, read⟩ := reading_of_isClause removed isClause
    refine ⟨?_, own ++ os, fun before' => ?_⟩
    · rw [queryCountAll, queryCount_eq, if_pos isClause.kind, isClause.children, queryCountAll,
        count]
      omega
    · exact readingAll_cons_eq_ok.2 ⟨_, _, read before', others _, rfl⟩

mutual

/-- The orders of a reading are what the terms of its ordering clauses say, in document
order. -/
theorem means_of_reading (n : Node) {before : Nat} {r : Reading}
    (h : n.reading s removed before = .ok r) :
    List.Forall₂ (OrderTerm.Means s.resolver) (n.clauses.flatMap (·.orderTerms)) r.orders := by
  match n with
  | ⟨kind, span, name, values, flags, type, terms, children⟩ =>
    rw [clauses_eq]
    cases says_of_reading h with
    | scope scope read _ =>
      rw [if_neg (NodeKind.ne_orderBy_of_isScope scope), List.append_nil]
      have inside := means_of_readingAll children read
      exact inside
    | leaf _ order childless _ =>
      rw [if_neg order, childless]
      exact .nil
    | clause order childless told =>
      rw [if_pos order, childless]
      simpa [clausesAll] using Setting.readTerms_eq_ok.1 told

theorem means_of_readingAll (ns : List Node) {before : Nat} {r : Reading}
    (h : readingAll s removed ns before = .ok r) :
    List.Forall₂ (OrderTerm.Means s.resolver) (orderTermsAll ns) r.orders := by
  match ns with
  | [] =>
    cases h
    exact .nil
  | n :: ns =>
    obtain ⟨r₁, r₂, own, rest, rfl⟩ := readingAll_cons_eq_ok.1 h
    rw [orderTermsAll, clausesAll, List.flatMap_append]
    exact List.rel_append (means_of_reading n own) (means_of_readingAll ns rest)

end

end

end Node

/-! ## Translations -/

/-- Terms in two parts say the orders of the one and then those of the other. -/
theorem exists_of_means_append {r : Resolver} {ts us : List OrderTerm} {os : List Order}
    (h : List.Forall₂ (OrderTerm.Means r) (ts ++ us) os) :
    ∃ front back, os = front ++ back ∧ List.Forall₂ (OrderTerm.Means r) ts front ∧
      List.Forall₂ (OrderTerm.Means r) us back := by
  refine ⟨os.take ts.length, os.drop ts.length, (List.take_append_drop ..).symm, ?_, ?_⟩
  · exact (List.forall₂_take_append os ts us h.flip).flip
  · exact (List.forall₂_drop_append os ts us h.flip).flip

namespace Translator

theorem exists_translation_of_edits {t : Translator} {tree : ParseTree} {r : Reading}
    {nodes : List Node}
    (read : Node.readingAll (t.setting (sourceOf tree)) [] tree.nodes 0 = .ok r)
    (edits : Node.Edits t.resolver tree.nodes nodes) :
    ∃ orders,
      { t with handlers := .without [] }.translation { tree with nodes } =
        .ok { outcome tree r with orders } ∧
      List.Forall₂ (OrderTerm.Means t.resolver) (Node.orderTermsAll nodes) orders := by
  obtain ⟨count, orders, reread⟩ := Node.readingAll_of_edits edits read
  refine ⟨orders, ?_, Node.means_of_readingAll nodes (reread 0)⟩
  have whole := translation_eq_map_outcome t [] { tree with nodes }
  rw [show sourceOf { tree with nodes } = sourceOf tree from rfl, reread 0] at whole
  rw [whole]
  simp only [Except.map, outcome, count]
  rfl

/-- Clauses and queries do not interfere. A tree that is translated has the orders that its
ordering clauses say, and no options just if these have no terms. After clauses were taken
out and put in anywhere, the tree is translated with the same queries and counters and with
the orders of the clauses that it then has. One clause more adds what its own terms say,
between the orders of the clauses before and after it. -/
theorem translation_of_edits (t : Translator) (tree : ParseTree) (done : Translation)
    (h : { t with handlers := .default }.translation tree = .ok done) :
    let translation := { t with handlers := .default }.translation
    let Say := List.Forall₂ (OrderTerm.Means t.resolver)
    Say (Node.orderTermsAll tree.nodes) done.orders ∧
      (done.options.isEmpty ↔ Node.orderTermsAll tree.nodes = []) ∧
      (∀ nodes, Node.Edits t.resolver tree.nodes nodes →
        ∃ orders, translation { tree with nodes } = .ok { done with orders } ∧
          Say (Node.orderTermsAll nodes) orders) ∧
      ∀ clause nodes, clause.IsClause t.resolver → Node.Inserts clause tree.nodes nodes →
        ∃ before after front own back,
          Node.clausesAll tree.nodes = before ++ after ∧
          Node.clausesAll nodes = before ++ clause :: after ∧
          done.orders = front ++ back ∧
          translation { tree with nodes } = .ok { done with orders := front ++ own ++ back } ∧
          Say (before.flatMap (·.orderTerms)) front ∧ Say clause.orderTerms own ∧
          Say (after.flatMap (·.orderTerms)) back := by
  intro translation Say
  have accepted : { t with handlers := .without [] }.translation tree = .ok done := h
  rw [translation_eq_map_outcome] at accepted
  obtain ⟨r, read, rfl⟩ := Literal.exists_of_map_eq_ok accepted
  have say : Say (Node.orderTermsAll tree.nodes) r.orders := Node.means_of_readingAll _ read
  refine ⟨say, ?_, ?_, ?_⟩
  · rw [Translation.options, Options.isEmpty_ofOrders, List.isEmpty_iff_length_eq_zero,
      outcome, ← say.length_eq, List.length_eq_zero_iff]
  · intro nodes edits
    exact exists_translation_of_edits read edits
  · intro clause nodes isClause inserts
    obtain ⟨before, after, old, new⟩ := inserts.exists_clauses isClause.kind isClause.children
    obtain ⟨orders, edited, means⟩ := exists_translation_of_edits read (inserts.edits isClause)
    rw [Node.orderTermsAll, old, List.flatMap_append] at say
    obtain ⟨front, back, split, sayFront, sayBack⟩ := exists_of_means_append say
    obtain ⟨os, own⟩ := Setting.exists_readTerms (s := t.setting none) clause.span isClause.terms
    have sayOwn : Say clause.orderTerms os := Setting.readTerms_eq_ok.1 own
    -- The terms leave no choice, so the parts of the old ordering are those of the new one.
    have same : orders = front ++ os ++ back := by
      refine List.right_unique_forall₂' (OrderTerm.rightUnique_means t.resolver) means ?_
      rw [Node.orderTermsAll, new, List.flatMap_append, List.flatMap_cons, List.append_assoc]
      exact List.rel_append sayFront (List.rel_append sayOwn sayBack)
    exact ⟨before, after, front, os, back, old, new, split, same ▸ edited, sayFront, sayOwn,
      sayBack⟩

/-- An ordering by one name, given twice. -/
def twice (name : String) : Node :=
  { kind := .orderBy
    orderTerms := [⟨⟨name, {}⟩, some ⟨"descending", {}⟩⟩, ⟨⟨name, {}⟩, some ⟨"DESC", {}⟩⟩] }

/-- The negation of one query, with a clause beside that query and one behind the negation. -/
def clauseTree : ParseTree where
  nodes := [.scope .not [twice "age", .leaf .has "name"], twice "name"]

/-- The clause in the negation is exchanged for another and the last one goes; or one more
comes to stand between the clause and the query of the negation. -/
theorem translation_of_edits_negation :
    let t := ofText ⟨"person"⟩
    let exchanged := [Node.scope .not [.leaf .has "name", twice "city"]]
    let extended := [Node.scope .not [twice "age", twice "city", .leaf .has "name"], twice "name"]
    ∃ done, t.translation clauseTree = .ok done ∧
      Node.Edits t.resolver clauseTree.nodes exchanged ∧ (twice "city").IsClause t.resolver ∧
      Node.Inserts (twice "city") clauseTree.nodes extended ∧
      (∃ orders, t.translation { clauseTree with nodes := exchanged } =
          .ok { done with orders } ∧
        List.Forall₂ (OrderTerm.Means t.resolver) (Node.orderTermsAll exchanged) orders) ∧
      ∃ front own back, done.orders = front ++ back ∧
        t.translation { clauseTree with nodes := extended } =
          .ok { done with orders := front ++ own ++ back } ∧
        List.Forall₂ (OrderTerm.Means t.resolver) (twice "city").orderTerms own := by
  intro t exchanged extended
  have isClause : (twice "city").IsClause t.resolver := ⟨rfl, rfl, fun u _ => ⟨⟨_, .string⟩, rfl⟩⟩
  have edits : Node.Edits t.resolver clauseTree.nodes exchanged :=
    .inside rfl (.remove rfl (.keep _ (.insert isClause .nil))) (.remove rfl .nil)
  have inserts : Node.Inserts (twice "city") clauseTree.nodes extended :=
    .inside [] [twice "name"] rfl (.here [twice "age"] [.leaf .has "name"])
  obtain ⟨-, -, edited, inserted⟩ := translation_of_edits t clauseTree _ rfl
  obtain ⟨-, -, front, own, back, -, -, split, extension, -, means, -⟩ :=
    inserted (twice "city") extended isClause inserts
  exact ⟨_, rfl, edits, isClause, inserts, edited exchanged edits, front, own, back, split,
    extension, means⟩

end Translator

end FilterQuery
