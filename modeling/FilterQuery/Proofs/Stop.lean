import FilterQuery.Proofs.Contribution
import FilterQuery.Proofs.Walk

/-!
# Where a walk stops

A walk that fails has left some nodes of the tree, in document order, and comes to one that
fails in its own right: it may not contain what is in it, one of its ordering terms does
not resolve, or no query can be made of it. `Stop` names this place. It tells what the
counters say afterwards, and nothing that waited around the walk has changed.
-/
namespace FilterQuery

/-- What is wrong with the node that a walk stops at. -/
inductive Obstacle
  /-- The node contains others and may not. -/
  | nesting
  /-- An ordering term of the node does not resolve. -/
  | term
  /-- The handler of the node fails, or its kind has none. -/
  | conversion
  deriving DecidableEq, Repr

/-- The node fails in its own right, once `made` queries were made. -/
inductive Node.Fails (s : Setting) (removed : List NodeKind) (n : Node) (made : Nat) :
    Obstacle → Diagnostic → Prop
  | nesting {d : Diagnostic} (refused : n.rejectNested s = .error d) :
      Fails s removed n made .nesting d
  | term {d : Diagnostic} (plain : n.rejectNested s = .ok ()) (kind : n.kind = .orderBy)
      (terms : s.readTerms n.span n.orderTerms = .error d) : Fails s removed n made .term d
  | conversion {d : Diagnostic} {before : Nat} {inner : Reading}
      (plain : n.rejectNested s = .ok ()) (kind : n.kind ≠ .orderBy)
      (children : readingAll s removed n.children before = .ok inner)
      (query : n.readQuery s removed made inner.queries = .error d) :
      Fails s removed n made .conversion d

/-- The place where a walk stops, with all that it has left before, in order. -/
structure Stop where
  left : List (Address × Node)
  address : Address
  node : Node
  obstacle : Obstacle

namespace Stop

/-- The nodes left before that make a query. -/
def queries (stop : Stop) : Nat := stop.left.countP (·.2.kind.makesQuery)

/-- What a walk has still to leave of the node that it stops at. Nesting is noticed on the
way in, with everything inside still ahead. -/
def ahead (stop : Stop) : List (Address × Node) :=
  match stop.obstacle with
  | .nesting => stop.node.entries stop.address
  | .term | .conversion => [(stop.address, stop.node)]

/-- A walk over the entries stops there, with `before` queries in front of them. -/
structure Within (s : Setting) (removed : List NodeKind) (before : Nat)
    (es : List (Address × Node)) (d : Diagnostic) (stop : Stop) : Prop where
  order : ∃ rest, es = stop.left ++ stop.ahead ++ rest
  read : ∀ e ∈ stop.left, ∃ made r, e.2.reading s removed made = .ok r
  fails : stop.node.Fails s removed (before + stop.queries) stop.obstacle d

/-- The stop of a longer walk, which began with other entries. -/
def after (stop : Stop) (es : List (Address × Node)) : Stop :=
  { stop with left := es ++ stop.left }

section
variable {s : Setting} {removed : List NodeKind} {before : Nat} {es es' : List (Address × Node)}
  {d : Diagnostic} {stop : Stop}

@[simp] theorem queries_after (stop : Stop) (es : List (Address × Node)) :
    (stop.after es).queries = es.countP (·.2.kind.makesQuery) + stop.queries := by
  simp [queries, after, List.countP_append]

theorem Within.append (h : stop.Within s removed before es d) (es' : List (Address × Node)) :
    stop.Within s removed before (es ++ es') d := by
  obtain ⟨rest, order⟩ := h.order
  exact ⟨⟨rest ++ es', by rw [order, List.append_assoc]⟩, h.read, h.fails⟩

theorem Within.after (h : stop.Within s removed (before + es.countP (·.2.kind.makesQuery)) es' d)
    (read : ∀ e ∈ es, ∃ made r, e.2.reading s removed made = .ok r) :
    (stop.after es).Within s removed before (es ++ es') d := by
  obtain ⟨rest, order⟩ := h.order
  refine ⟨⟨rest, ?_⟩, ?_, ?_⟩
  · rw [order]
    simp [Stop.after, ahead, List.append_assoc]
  · intro e he
    exact (List.mem_append.1 he).elim (read e) (h.read e)
  · rw [queries_after, ← Nat.add_assoc]
    exact h.fails

end

end Stop

namespace Node

section
variable {s : Setting} {removed : List NodeKind}

mutual

/-- In a node that can be read, everything can. -/
theorem reading_entries (n : Node) (a : Address) {before : Nat} {r : Reading}
    (h : n.reading s removed before = .ok r) :
    ∀ e ∈ n.entries a, ∃ made r', e.2.reading s removed made = .ok r' := by
  match n with
  | ⟨kind, span, name, values, flags, type, terms, children⟩ =>
    intro e he
    rw [entries, List.mem_append, List.mem_singleton] at he
    rcases he with he | rfl
    · cases says_of_reading h with
      | scope _ inner _ => exact reading_entriesAll children a 0 inner e he
      | leaf _ _ hc _ | clause _ hc _ =>
        obtain rfl : children = [] := hc
        cases he
    · exact ⟨before, r, h⟩

theorem reading_entriesAll (ns : List Node) (a : Address) (i : Nat) {before : Nat} {r : Reading}
    (h : readingAll s removed ns before = .ok r) :
    ∀ e ∈ entriesAll a i ns, ∃ made r', e.2.reading s removed made = .ok r' := by
  match ns with
  | [] =>
    intro e he
    cases he
  | n :: ns =>
    obtain ⟨r₁, r₂, h₁, h₂, -⟩ := readingAll_cons_eq_ok.1 h
    intro e he
    rw [entriesAll, List.mem_append] at he
    rcases he with he | he
    · exact reading_entries n (i :: a) h₁ e he
    · exact reading_entriesAll ns a (i + 1) h₂ e he

end

end

theorem entries_eq (n : Node) (a : Address) :
    n.entries a = entriesAll a 0 n.children ++ [(a, n)] := by
  cases n
  rw [entries]

end Node

namespace Progress

/-- What a walk that stops leaves of the counters: the queries before the stop, and one more
encounter if the node that it stopped at was counted. -/
structure Halts (p : Progress) (stop : Stop) (p' : Progress) : Prop where
  converted : p'.coverage.converted = p.coverage.converted + stop.queries
  encountered :
    p'.coverage.encountered =
      p'.coverage.converted + if stop.obstacle = .conversion then 1 else 0

theorem pending_advance (p : Progress) (r : Reading) (queries scopes : Nat)
    {scope id : ScopeId} (hid : id ≠ scope) :
    (p.advance scope r queries scopes).scopes.pending id = p.scopes.pending id := by
  simp [advance, Scopes.pending_grown, hid]

section
variable {s : Setting} {removed : List NodeKind} {p p' : Progress} {d : Diagnostic}

/-- Leaving a node fails for want of a term or of a query, and only takes what waits in the
node's own scope. -/
theorem exitNode_stops {x : NodeExit} (hp : p.Complete)
    (plain : x.node.rejectNested s = .ok ()) {before : Nat} {inner : Reading}
    (children : Node.readingAll s removed x.node.children before = .ok inner)
    (waiting : x.node.kind.isScope → p.scopes.pending x.id = inner.queries)
    (h : exitNode s (.without removed) x p = .error d p') :
    ∃ o : Obstacle, o ≠ .nesting ∧ x.node.Fails s removed p.coverage.converted o d ∧
      p'.coverage.converted = p.coverage.converted ∧
      p'.coverage.encountered = p'.coverage.converted + (if o = .conversion then 1 else 0) ∧
      ∀ id, ¬ (x.node.kind.isScope ∧ id = x.id) →
        p'.scopes.pending id = p.scopes.pending id := by
  -- A leaf takes nothing, so what waits around it may differ from what is inside it.
  have query : x.node.readQuery s removed p.coverage.converted (p.scopes.pending x.id) =
      x.node.readQuery s removed p.coverage.converted inner.queries := by
    by_cases hk : x.node.kind.isScope
    · rw [waiting hk]
    · rw [Node.readQuery_of_leaf hk, Node.readQuery_of_leaf hk _ _ inner.queries]
  rw [Node.readQuery_eq] at query
  have counted : p.coverage.encountered = p.coverage.converted := hp
  have hx := exitNode_exits s (.without removed) x hp.counted
  rw [h] at hx
  cases hx with
  | nested refused => simp [plain] at refused
  | unordered _ kind terms =>
    exact ⟨.term, by simp, .term plain kind terms, rfl, by simp [counted], fun _ _ => rfl⟩
  | unhandled _ kind handler =>
    simp only [handler, unconverted_eq_shortfall hp] at query
    exact ⟨.conversion, by simp, .conversion plain kind children query.symm, rfl,
      by simp [counted], fun _ _ => rfl⟩
  | refused _ kind handler made =>
    simp only [handler, made] at query
    rw [drained_eq_left handler]
    refine ⟨.conversion, by simp, .conversion plain kind children query.symm, by simp,
      by simp [counted], fun id hid => ?_⟩
    rw [pending_left, if_neg hid]
  | uncovered _ _ _ _ incomplete => exact absurd hp (Nat.ne_of_gt incomplete)

theorem walk_stops_of_nested {n : Node} {a : Address} {scope : ScopeId} (hp : p.Complete)
    (refused : n.rejectNested s = .error d)
    (h : walk s (.without removed) n scope p = .error d p') :
    p' = p ∧ (Stop.mk [] a n .nesting).Within s removed p.coverage.converted (n.entries a) d ∧
      p.Halts ⟨[], a, n, .nesting⟩ p' := by
  rw [walk_of_nested refused] at h
  cases h
  exact ⟨rfl, ⟨⟨[], by simp [Stop.ahead]⟩, by simp, .nesting refused⟩, ⟨rfl, hp⟩⟩

/-- The stop at a node whose children were all read. -/
theorem walk_stops_of_exit {n : Node} {a : Address} {q : Progress} {inner : Reading}
    {o : Obstacle} (ho : o ≠ .nesting)
    (children : Node.readingAll s removed n.children p.coverage.converted = .ok inner)
    (counted : q.coverage.converted =
      p.coverage.converted + Node.queryCountAll n.children)
    (fails : n.Fails s removed q.coverage.converted o d)
    (converted : p'.coverage.converted = q.coverage.converted)
    (encountered : p'.coverage.encountered =
      p'.coverage.converted + if o = .conversion then 1 else 0) :
    let stop : Stop := ⟨Node.entriesAll a 0 n.children, a, n, o⟩
    stop.Within s removed p.coverage.converted (n.entries a) d ∧ p.Halts stop p' := by
  intro stop
  have queries : stop.queries = Node.queryCountAll n.children :=
    Node.countP_entriesAll n.children a 0
  have ahead : stop.ahead = [(a, n)] := by
    cases o with
    | nesting => exact absurd rfl ho
    | term => rfl
    | conversion => rfl
  refine ⟨⟨⟨[], ?_⟩, ?_, ?_⟩, ⟨?_, encountered⟩⟩
  · rw [ahead, Node.entries_eq, List.append_nil]
  · exact Node.reading_entriesAll n.children a 0 children
  · rwa [queries, ← counted]
  · rw [converted, counted, queries]

/-- A walk that fails stops somewhere in its tree, whatever waits around it. -/
def StopsIn (s : Setting) (removed : List NodeKind) (p : Progress)
    (es : List (Address × Node)) (d : Diagnostic) (p' : Progress) : Prop :=
  ∃ stop : Stop, stop.Within s removed p.coverage.converted es d ∧ p.Halts stop p'

theorem walk_stops_of_scope {n : Node} {a : Address} {scope : ScopeId} (hp : p.Complete)
    (tidy : p.scopes.Tidy) (hk : n.kind.isScope)
    (inside : ∀ {d' p''},
      walkAll s (.without removed) n.children p.scopes.next p.entered = .error d' p'' →
      p.entered.StopsIn s removed (Node.entriesAll a 0 n.children) d' p'' ∧
        ∀ id, p.entered.scopes.IsOpen id → id ≠ p.scopes.next →
          p''.scopes.pending id = p.entered.scopes.pending id)
    (h : walk s (.without removed) n scope p = .error d p') :
    p.StopsIn s removed (n.entries a) d p' ∧
      ∀ id, p.scopes.IsOpen id → p'.scopes.pending id = p.scopes.pending id := by
  have follows := @walkAll_follows s removed n.children p.scopes.next p.entered hp
    tidy.hosts_next
  rw [walk_of_scope hk] at h
  generalize hw : walkAll s (.without removed) n.children p.scopes.next p.entered = result
    at follows
  generalize hr : Node.readingAll s removed n.children _ = reading at follows
  cases follows with
  | error d' p'' =>
    rw [Event.bind_of_error hw] at h
    cases h
    obtain ⟨⟨stop, within, halts⟩, spared⟩ := inside hw
    rw [Node.entries_eq]
    refine ⟨⟨stop, within.append _, halts.converted, halts.encountered⟩, fun id hid => ?_⟩
    rw [spared id hid.opened hid.ne_next, scopes_entered, Scopes.pending_opened]
  | ok r =>
    rw [Event.bind_of_ok hw] at h
    obtain ⟨o, ho, fails, converted, encountered, spared⟩ :=
      exitNode_stops (x := ⟨n, scope, p.scopes.next⟩) (Complete.advance (p := p.entered) hp ..)
        (Node.rejectNested_eq_ok.2 (.inl hk)) hr
        (fun _ => by simp [advance, Scopes.pending_grown, tidy.pending_next]) h
    refine ⟨⟨_, walk_stops_of_exit ho hr rfl fails converted encountered⟩, fun id hid => ?_⟩
    rw [spared id fun own => hid.ne_next own.2, pending_advance _ _ _ _ hid.ne_next,
      scopes_entered, Scopes.pending_opened]

theorem walk_stops_of_leaf {n : Node} {a : Address} {scope : ScopeId} (hp : p.Complete)
    (hk : ¬ n.kind.isScope) (hc : n.children = [])
    (h : walk s (.without removed) n scope p = .error d p') :
    p.StopsIn s removed (n.entries a) d p' ∧
      ∀ id, p.scopes.IsOpen id → p'.scopes.pending id = p.scopes.pending id := by
  have children : Node.readingAll s removed n.children p.coverage.converted = .ok {} := by
    rw [hc, Node.readingAll]
  rw [walk_of_leaf hk hc] at h
  obtain ⟨o, ho, fails, converted, encountered, spared⟩ :=
    exitNode_stops (x := ⟨n, scope, scope⟩) hp (Node.rejectNested_eq_ok.2 (.inr hc)) children
      (fun isScope => absurd isScope hk) h
  refine ⟨⟨_, walk_stops_of_exit ho children ?_ fails converted encountered⟩, fun id _ => ?_⟩
  · rw [hc, Node.queryCountAll, Nat.add_zero]
  · exact spared id fun own => hk own.1

mutual

theorem walk_stops (n : Node) (a : Address) (scope : ScopeId) {p p' : Progress}
    {d : Diagnostic} (hp : p.Complete) (hs : p.scopes.Hosts scope)
    (h : walk s (.without removed) n scope p = .error d p') :
    p.StopsIn s removed (n.entries a) d p' ∧
      ∀ id, p.scopes.IsOpen id → p'.scopes.pending id = p.scopes.pending id := by
  match n with
  | ⟨kind, span, name, values, flags, type, terms, children⟩ =>
    generalize hn : (⟨kind, span, name, values, flags, type, terms, children⟩ : Node) = n at h
    cases plain : n.rejectNested s with
    | error d' =>
      obtain rfl : d' = d := by
        rw [walk_of_nested plain] at h
        cases h
        rfl
      obtain ⟨rfl, within, halts⟩ := walk_stops_of_nested (a := a) hp plain h
      exact ⟨⟨_, within, halts⟩, fun _ _ => rfl⟩
    | ok =>
      by_cases hk : n.kind.isScope
      · refine walk_stops_of_scope hp hs.tidy hk (fun inner => ?_) h
        have hc : n.children = children := by rw [← hn]
        rw [hc] at inner ⊢
        exact walkAll_stops children a 0 p.scopes.next (p := p.entered) hp hs.tidy.hosts_next
          inner
      · exact walk_stops_of_leaf hp hk ((Node.rejectNested_eq_ok.1 plain).resolve_left hk) h

theorem walkAll_stops (ns : List Node) (a : Address) (i : Nat) (scope : ScopeId)
    {p p' : Progress} {d : Diagnostic} (hp : p.Complete) (hs : p.scopes.Hosts scope)
    (h : walkAll s (.without removed) ns scope p = .error d p') :
    p.StopsIn s removed (Node.entriesAll a i ns) d p' ∧
      ∀ id, p.scopes.IsOpen id → id ≠ scope →
        p'.scopes.pending id = p.scopes.pending id := by
  match ns with
  | [] => cases h
  | n :: ns =>
    rw [walkAll] at h
    rw [Node.entriesAll]
    have follows := @walk_follows s removed n scope p hp hs
    generalize hw : walk s (.without removed) n scope p = result at follows
    generalize hr : n.reading s removed _ = reading at follows
    cases follows with
    | error d' p'' =>
      rw [Event.bind_of_error hw] at h
      cases h
      obtain ⟨⟨stop, within, halts⟩, spared⟩ := walk_stops n (i :: a) scope hp hs hw
      exact ⟨⟨stop, within.append _, halts⟩, fun id hid _ => spared id hid⟩
    | ok r =>
      rw [Event.bind_of_ok hw] at h
      obtain ⟨⟨stop, within, halts⟩, spared⟩ :=
        walkAll_stops ns a (i + 1) scope (hp.advance ..) (hs.grown ..) h
      have counted := Node.countP_entries n (i :: a)
      refine ⟨⟨stop.after (n.entries (i :: a)), ?_, ?_, halts.encountered⟩, fun id hid other => ?_⟩
      · refine Stop.Within.after ?_ (Node.reading_entries n (i :: a) hr)
        rw [counted]
        exact within
      · rw [halts.converted, Stop.queries_after, counted, advance, Nat.add_assoc]
      · rw [spared id (hid.grown ..) other, pending_advance _ _ _ _ other]

end

end

end Progress

end FilterQuery
