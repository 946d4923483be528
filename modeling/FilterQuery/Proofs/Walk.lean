import FilterQuery.Proofs.Reading
import FilterQuery.Proofs.Scopes

/-!
# Walking a tree is reading it

A walk threads identities, waiting queries and two counters through the tree. From any
state whose counters agree it ends as the reading does: with the failure of the reading,
or in the state that the reading determines.
-/
namespace FilterQuery

namespace Progress

/-- Everything that was met has been converted. -/
def Complete (p : Progress) : Prop := p.coverage.encountered = p.coverage.converted

/-- The translation after a scope was opened. -/
def entered (p : Progress) : Progress := { p with scopes := p.scopes.opened }

@[simp] theorem scopes_entered (p : Progress) : p.entered.scopes = p.scopes.opened := rfl
@[simp] theorem coverage_entered (p : Progress) : p.entered.coverage = p.coverage := rfl
@[simp] theorem orders_entered (p : Progress) : p.entered.orders = p.orders := rfl

/-- The translation after nodes inside a scope were read: so many queries converted in all,
and so many scopes opened and closed again. -/
def advance (p : Progress) (scope : ScopeId) (r : Reading) (queries scopes : Nat) : Progress where
  scopes := p.scopes.grown scope r.queries scopes
  coverage := ⟨p.coverage.encountered + queries, p.coverage.converted + queries⟩
  orders := p.orders ++ r.orders

section
variable {p : Progress} {scope : ScopeId}

theorem Complete.counted (h : p.Complete) : p.Counted := Nat.le_of_eq h.symm

theorem Complete.advance (h : p.Complete) (scope : ScopeId) (r : Reading)
    (queries scopes : Nat) :
    (p.advance scope r queries scopes).Complete := by
  unfold Complete at h ⊢
  simp [Progress.advance, h]

variable (p scope)

theorem advance_nil : p.advance scope {} 0 0 = p := by simp [advance]

theorem advance_advance (r r' : Reading) (m m' k k' : Nat) :
    (p.advance scope r m k).advance scope r' m' k' =
      p.advance scope (r.append r') (m + m') (k + k') := by
  simp only [advance, Reading.append, Scopes.grown_grown, List.append_assoc, Nat.add_assoc]

end

/-- An event ends as a computation without state does, in the state `after` its result. -/
inductive Follows {ρ : Type} (after : ρ → Progress) :
    Except Diagnostic ρ → EStateM.Result Diagnostic Progress Unit → Prop
  | ok (r : ρ) : Follows after (.ok r) (.ok () (after r))
  | error (d : Diagnostic) (p : Progress) : Follows after (.error d) (.error d p)

section
variable {ρ ρ' : Type} {after : ρ → Progress} {after' : ρ' → Progress}

theorem Follows.bind {e : Except Diagnostic ρ} {g : ρ → Except Diagnostic ρ'} {x : Event Unit}
    {f : Unit → Event Unit} {p : Progress} (hx : Follows after e (x p))
    (hf : ∀ r, e = .ok r → Follows after' (g r) (f () (after r))) :
    Follows after' (e >>= g) ((x >>= f) p) := by
  generalize hr : x p = result at hx
  cases hx with
  | ok r =>
    rw [Event.bind_of_ok hr]
    exact hf r rfl
  | error d p' =>
    rw [Event.bind_of_error hr]
    exact .error d p'

theorem Follows.eq_ok {e : Except Diagnostic ρ} {r : ρ}
    {result : EStateM.Result Diagnostic Progress Unit} (h : Follows after e result)
    (he : e = .ok r) : result = .ok () (after r) := by
  subst he
  cases h
  rfl

theorem Follows.map {e : Except Diagnostic ρ} {g : ρ → ρ'}
    {result : EStateM.Result Diagnostic Progress Unit} (hx : Follows after e result)
    (hg : ∀ r, e = .ok r → after r = after' (g r)) :
    Follows after' (e >>= fun r => pure (g r)) result := by
  cases hx with
  | ok r =>
    rw [hg r rfl]
    exact .ok (g r)
  | error d p => exact .error d p

end

/-- The translation after the queries in a node's own scope were taken, if it has one. -/
def left (p : Progress) (k : NodeKind) (id : ScopeId) : Progress :=
  if k.isScope then { p with scopes := p.scopes.cleared id } else p

theorem pending_left {p : Progress} {k : NodeKind} {id id' : ScopeId} :
    (p.encounter.left k id).scopes.pending id' =
      if k.isScope ∧ id' = id then [] else p.scopes.pending id' := by
  by_cases hk : k.isScope <;> simp [left, hk, Scopes.pending_cleared]

theorem isOpen_left {p : Progress} {id' : ScopeId} (h : p.scopes.IsOpen id') (k : NodeKind)
    (id : ScopeId) : (p.encounter.left k id).scopes.IsOpen id' := by
  unfold left
  split <;> exact h

theorem tidy_left {p : Progress} (h : p.scopes.Tidy) (k : NodeKind) (id : ScopeId) :
    (p.encounter.left k id).scopes.Tidy := by
  unfold left
  split
  · exact h.cleared id
  · exact h

@[simp] theorem coverage_left (p : Progress) (k : NodeKind) (id : ScopeId) :
    (p.left k id).coverage = p.coverage := by
  unfold left
  split <;> rfl

theorem drained_eq_left {removed : List NodeKind} {k : NodeKind} {h : Handler}
    (hk : (Handlers.without removed).get? k = some h) (p : Progress) (id : ScopeId) :
    p.drained id h = p.left k id := by
  rw [Handlers.get?_without] at hk
  split at hk
  · cases hk
  · cases k <;> cases hk <;> rfl

section
variable {s : Setting} {removed : List NodeKind} {x : NodeExit} {p : Progress}

theorem unconverted_eq_shortfall (hp : p.Complete) (n : Node) :
    n.unconverted s p.coverage.converted = .error (p.encounter.shortfall s n) := by
  unfold Complete at hp
  simp [Node.unconverted, Setting.fail, shortfall, hp]

variable (removed) in
/-- Leaving a node that makes a query. -/
theorem exitNode_follows_readQuery (hp : p.Complete) (plain : x.node.rejectNested s = .ok ())
    (hk : x.node.kind ≠ .orderBy) :
    Follows (fun q => (p.encounter.left x.node.kind x.id).convert x.scope ⟨q, x.node.span⟩)
      (x.node.readQuery s removed p.coverage.converted (p.scopes.pending x.id))
      (exitNode s (.without removed) x p) := by
  rw [Node.readQuery_eq]
  have hx := exitNode_exits s (.without removed) x hp.counted
  generalize exitNode s (.without removed) x p = result at hx ⊢
  cases hx with
  | nested refused => simp [plain] at refused
  | ordered _ kind => exact absurd kind hk
  | unordered _ kind => exact absurd kind hk
  | unhandled _ _ handler =>
    simp only [handler, unconverted_eq_shortfall hp]
    exact .error _ _
  | refused _ _ handler made =>
    simp only [handler, made]
    exact .error _ _
  | converted _ _ handler made _ =>
    simp only [handler, made, drained_eq_left handler]
    exact .ok _
  | uncovered _ _ _ _ incomplete => exact absurd hp (Nat.ne_of_gt incomplete)

/-- Leaving an ordering clause. -/
theorem exitNode_follows_readTerms (plain : x.node.rejectNested s = .ok ())
    (hk : x.node.kind = .orderBy) (hs : Handlers) :
    Follows p.ordered (s.readTerms x.node.span x.node.orderTerms) (exitNode s hs x p) := by
  rw [exitNode_of_plain plain, if_neg (by simp [NodeKind.makesQuery, hk])]
  cases ht : s.readTerms x.node.span x.node.orderTerms with
  | ok os =>
    rw [collect_of_ok ht]
    exact .ok os
  | error d =>
    obtain ⟨os, hos⟩ := collect_of_error ht p
    rw [hos]
    exact .error d _

end

/-! ## Walks by kind of node -/

section
variable {s : Setting} {hs : Handlers} {n : Node} {scope : ScopeId} {p : Progress}

theorem walk_of_nested {d : Diagnostic} (hn : n.rejectNested s = .error d) :
    walk s hs n scope p = .error d p := by
  cases n
  rw [walk, hn]
  rfl

theorem walk_of_scope (hk : n.kind.isScope) :
    walk s hs n scope p =
      (walkAll s hs n.children p.scopes.next >>= fun _ =>
        exitNode s hs ⟨n, scope, p.scopes.next⟩) p.entered := by
  have plain : n.rejectNested s = .ok () := Node.rejectNested_eq_ok.2 (.inl hk)
  cases n
  rw [walk, plain]
  simp only [if_pos hk]
  rfl

theorem walk_of_leaf (hk : ¬ n.kind.isScope) (hc : n.children = []) :
    walk s hs n scope p = exitNode s hs ⟨n, scope, scope⟩ p := by
  have plain : n.rejectNested s = .ok () := Node.rejectNested_eq_ok.2 (.inr hc)
  cases n
  subst hc
  rw [walk, plain]
  simp only [if_neg hk, walkAll]
  rfl

end

/-! ## What a node adds -/

/-- What a node of a scope adds to the scope around it. -/
theorem convert_left_advance_opened {p : Progress} (tidy : p.scopes.Tidy) (scope : ScopeId)
    (inner : Reading) (m k : Nat) {kind : NodeKind}
    (hk : kind.isScope) (q : Spanned Query) :
    (((p.entered.advance p.scopes.next inner m k).encounter.left kind p.scopes.next).convert
        scope q) = p.advance scope ⟨[q], inner.orders⟩ (m + 1) (k + 1) := by
  simp only [left, if_pos hk, advance, encounter, convert, entered,
    Scopes.register_cleared_grown_opened _ _ tidy, Nat.add_assoc]

theorem convert_left_advance (p : Progress) (scope : ScopeId) {kind : NodeKind}
    (hk : ¬ kind.isScope) (q : Spanned Query) :
    ((p.encounter.left kind scope).convert scope q) = p.advance scope ⟨[q], []⟩ 1 0 := by
  simp [left, hk, advance, encounter, convert, Scopes.register_eq_grown]

theorem ordered_eq_advance (p : Progress) (scope : ScopeId) (os : List Order) :
    p.ordered os = p.advance scope { orders := os } 0 0 := by
  simp [ordered, advance]

section
variable {s : Setting} {removed : List NodeKind} {n : Node} {scope : ScopeId} {p : Progress}

theorem walk_follows_of_scope (hp : p.Complete) (tidy : p.scopes.Tidy)
    (hk : n.kind.isScope)
    (inner : Follows
      (fun r => p.entered.advance p.scopes.next r (Node.queryCountAll n.children)
        (Node.scopeCountAll n.children))
      (Node.readingAll s removed n.children p.coverage.converted)
      (walkAll s (.without removed) n.children p.scopes.next p.entered)) :
    Follows (fun r => p.advance scope r n.queryCount n.scopeCount)
      (n.reading s removed p.coverage.converted) (walk s (.without removed) n scope p) := by
  have ho : n.kind ≠ .orderBy := NodeKind.ne_orderBy_of_isScope hk
  rw [Node.reading_of_scope hk, walk_of_scope hk, Node.queryCount_eq, Node.scopeCount_eq,
    if_neg ho, if_pos hk]
  refine inner.bind fun r _ => ?_
  have complete : p.entered.Complete := hp
  have waiting : (p.entered.advance p.scopes.next r (Node.queryCountAll n.children)
      (Node.scopeCountAll n.children)).scopes.pending p.scopes.next = r.queries := by
    simp [advance, Scopes.pending_grown, tidy.pending_next]
  have exit := exitNode_follows_readQuery removed (s := s)
    (x := ⟨n, scope, p.scopes.next⟩)
    (complete.advance p.scopes.next r (Node.queryCountAll n.children)
      (Node.scopeCountAll n.children))
    (Node.rejectNested_eq_ok.2 (.inl hk)) ho
  rw [waiting] at exit
  exact exit.map fun q _ => convert_left_advance_opened tidy scope _ _ _ hk _

theorem walk_follows_of_leaf (hp : p.Complete)
    (hk : ¬ n.kind.isScope) (hc : n.children = []) :
    Follows (fun r => p.advance scope r n.queryCount n.scopeCount)
      (n.reading s removed p.coverage.converted) (walk s (.without removed) n scope p) := by
  have plain : n.rejectNested s = .ok () := Node.rejectNested_eq_ok.2 (.inr hc)
  rw [walk_of_leaf hk hc, Node.queryCount_eq, Node.scopeCount_eq, hc, if_neg hk]
  by_cases ho : n.kind = .orderBy
  · have exit := exitNode_follows_readTerms (x := ⟨n, scope, scope⟩) (p := p) plain ho
      (.without removed)
    rw [Node.reading_of_orderBy ho hc, if_pos ho]
    exact exit.map fun os _ => ordered_eq_advance p scope os
  · -- A leaf takes nothing out of a scope, so what waits around it does not matter.
    have exit := exitNode_follows_readQuery removed (x := ⟨n, scope, scope⟩) hp plain ho
    rw [Node.readQuery_of_leaf hk] at exit
    rw [Node.reading_of_leaf hk ho hc, if_neg ho]
    exact exit.map fun q _ => convert_left_advance p scope hk _

end

section
variable {s : Setting} {removed : List NodeKind}

mutual

theorem walk_follows (n : Node) (scope : ScopeId) {p : Progress} (hp : p.Complete)
    (hs : p.scopes.Hosts scope) :
    Follows (fun r => p.advance scope r n.queryCount n.scopeCount)
      (n.reading s removed p.coverage.converted) (walk s (.without removed) n scope p) := by
  match n with
  | ⟨kind, span, name, values, flags, type, terms, children⟩ =>
    generalize hn : (⟨kind, span, name, values, flags, type, terms, children⟩ : Node) = n
    cases plain : n.rejectNested s with
    | error d =>
      rw [Node.reading_of_nested plain, walk_of_nested plain]
      exact .error d p
    | ok =>
      by_cases hk : n.kind.isScope
      · refine walk_follows_of_scope hp hs.tidy hk ?_
        have hc : n.children = children := by rw [← hn]
        rw [hc]
        -- The state is any complete one, since siblings leave queues and counters behind.
        exact walkAll_follows children p.scopes.next (p := p.entered) hp hs.tidy.hosts_next
      · exact walk_follows_of_leaf hp hk
          ((Node.rejectNested_eq_ok.1 plain).resolve_left hk)

theorem walkAll_follows (ns : List Node) (scope : ScopeId) {p : Progress} (hp : p.Complete)
    (hs : p.scopes.Hosts scope) :
    Follows
      (fun r => p.advance scope r (Node.queryCountAll ns) (Node.scopeCountAll ns))
      (Node.readingAll s removed ns p.coverage.converted)
      (walkAll s (.without removed) ns scope p) := by
  match ns with
  | [] =>
    simp only [Node.readingAll, walkAll, Node.queryCountAll, Node.scopeCountAll]
    have h : Follows (fun r => p.advance scope r 0 0) (.ok {}) _ := .ok _
    rwa [advance_nil] at h
  | n :: ns =>
    simp only [Node.readingAll, walkAll, Node.queryCountAll, Node.scopeCountAll]
    refine (walk_follows n scope hp hs).bind fun r _ => ?_
    refine (walkAll_follows ns scope (hp.advance ..) (hs.grown ..)).map fun r' _ => ?_
    exact advance_advance ..

end

end

/-! ## Whole trees -/

theorem walkTree_follows (s : Setting) (removed : List NodeKind) (tree : ParseTree) :
    Follows
      (fun r => ({} : Progress).advance .root r (Node.queryCountAll tree.nodes)
        (Node.scopeCountAll tree.nodes))
      (Node.readingAll s removed tree.nodes 0) (walkTree s (.without removed) tree {}) :=
  walkAll_follows tree.nodes .root rfl Scopes.tidy_empty.hosts_root

theorem finish_advance (r : Reading) (queries scopes : Nat) (source : Option Source) :
    (({} : Progress).advance .root r queries scopes).finish source =
      { roots := r.queries, orders := r.orders, encountered := queries, converted := queries,
        source } := by
  have hr : (({} : Scopes).grown .root r.queries scopes).pending .root = r.queries := by
    rw [Scopes.pending_grown, if_pos rfl]
    rfl
  rw [finish_eq]
  simp [advance, hr]

end Progress

namespace Translator

/-- Every name is an attribute that holds text, and every literal stands for itself. -/
def ofText (type : ObjectType) : Translator where
  resolver name _ := .ok ⟨name, .string⟩
  converter _ raw := .ok (.string raw)
  compiles _ := true
  objectType := type

theorem translation_eq_walkTree (t : Translator) (handlers : Handlers) (tree : ParseTree) :
    { t with handlers }.translation tree =
      match Progress.walkTree (t.setting (sourceOf tree)) handlers tree {} with
      | .ok _ p => .ok (p.finish (sourceOf tree))
      | .error d _ => .error d := rfl

/-- The outcome for a tree that has the reading. -/
def outcome (tree : ParseTree) (r : Reading) : Translation where
  roots := r.queries
  orders := r.orders
  encountered := Node.queryCountAll tree.nodes
  converted := Node.queryCountAll tree.nodes
  source := sourceOf tree

theorem translation_eq_map_outcome (t : Translator) (removed : List NodeKind)
    (tree : ParseTree) :
    { t with handlers := .without removed }.translation tree =
      (Node.readingAll (t.setting (sourceOf tree)) removed tree.nodes 0).map (outcome tree) := by
  have follows := Progress.walkTree_follows (t.setting (sourceOf tree)) removed tree
  rw [translation_eq_walkTree]
  generalize Progress.walkTree _ _ tree {} = result at follows ⊢
  generalize Node.readingAll _ removed tree.nodes 0 = reading at follows ⊢
  cases follows with
  | ok r => simp only [Except.map, Progress.finish_advance, outcome]
  | error d p => rfl

theorem exists_reading_of_translation {t : Translator} {removed : List NodeKind}
    {tree : ParseTree} {done : Translation}
    (h : { t with handlers := .without removed }.translation tree = .ok done) :
    ∃ r, Node.readingAll (t.setting (sourceOf tree)) removed tree.nodes 0 = .ok r ∧
      done.roots = r.queries ∧ done.orders = r.orders := by
  rw [translation_eq_map_outcome] at h
  obtain ⟨r, read, rfl⟩ := Literal.exists_of_map_eq_ok h
  exact ⟨r, read, rfl, rfl⟩

/-- A translation is the reading of its tree: it hands over the queries that the top-level
nodes say, in source order and each with the span of its node, the ordering terms among
all nodes, and as many encounters and conversions as there are nodes that make a query;
or it fails as the reading fails. -/
theorem translation_eq_reading (t : Translator) (removed : List NodeKind) (tree : ParseTree) :
    { t with handlers := .without removed }.translation tree =
      (Node.readingAll (t.setting (sourceOf tree)) removed tree.nodes 0).map fun r =>
        { roots := r.queries, orders := r.orders,
          encountered := Node.queryCountAll tree.nodes,
          converted := Node.queryCountAll tree.nodes, source := sourceOf tree } :=
  translation_eq_map_outcome t removed tree

end Translator

end FilterQuery
