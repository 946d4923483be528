import FilterQuery.Proofs.Stop
import FilterQuery.Proofs.Tally

/-!
# What is handed out after a failure

The end of a traversal looks at the queries that wait at the root and at nothing else. A
failed call is not remembered: whatever was registered at the root before it failed, and even
by the exit that failed, stays there. A run hands out a query exactly when one exit put it at
the root, found nothing there or took it, and no later exit did either; and after a failed
walk over a tree that is one of the top-level nodes in front of the failure.
-/
namespace FilterQuery

/-- The handler takes the queries out of the node's own scope. -/
def Handler.isReducer : Handler → Bool
  | .leaf _ => false
  | .scope _ => true

theorem Progress.pending_drained (p : Progress) (id : ScopeId) (h : Handler) (id' : ScopeId) :
    (p.drained id h).scopes.pending id' =
      if h.isReducer ∧ id' = id then [] else p.scopes.pending id' := by
  cases h <;> simp [drained, Handler.isReducer, Scopes.pending_cleared]

namespace Leaving

section
variable (s : Setting) (hs : Handlers) (l : Leaving)

/-- The handler that runs when the node is left, if one does. -/
def handler? : Option Handler :=
  match l.exit.node.rejectNested s with
  | .ok () => if l.exit.node.kind.makesQuery then hs.get? l.exit.node.kind else none
  | .error _ => none

/-- A reducer runs and takes the queries that wait at the root. -/
def TakesRoot : Prop := l.exit.id = .root ∧ ∃ h ∈ l.handler? s hs, h.isReducer

instance : Decidable (l.TakesRoot s hs) := inferInstanceAs (Decidable (_ ∧ _))

/-- The query that is made and registered at the root. Whether the exit fails in the end is
not asked. -/
def root? : Option (Spanned Query) :=
  if l.exit.scope = .root then
    (l.handler? s hs).bind fun h =>
      ((h.make s l.exit.node (l.before.scopes.pending l.exit.id)).toOption).map
        (⟨·, l.exit.node.span⟩)
  else none

/-- The queries at the root after an exit, from those that were there before it. -/
def roots (before : List (Spanned Query)) : List (Spanned Query) :=
  (if l.TakesRoot s hs then [] else before) ++ (l.root? s hs).toList

end

variable {s : Setting} {hs : Handlers} {l : Leaving} {h : Handler}

theorem handler?_of_nested {d : Diagnostic} (refused : l.exit.node.rejectNested s = .error d) :
    l.handler? s hs = none := by
  rw [handler?, refused]

theorem handler?_of_plain (plain : l.exit.node.rejectNested s = .ok ())
    (kind : l.exit.node.kind ≠ .orderBy) : l.handler? s hs = hs.get? l.exit.node.kind := by
  simp [handler?, plain, NodeKind.makesQuery, kind]

theorem handler?_of_orderBy (plain : l.exit.node.rejectNested s = .ok ())
    (kind : l.exit.node.kind = .orderBy) : l.handler? s hs = none := by
  simp [handler?, plain, NodeKind.makesQuery, kind]

theorem roots_of_none (found : l.handler? s hs = none) (before : List (Spanned Query)) :
    l.roots s hs before = before := by
  simp [roots, TakesRoot, root?, found]

/-- A reducer has taken what it takes, whether or not it can make a query of it. -/
theorem pending_root_drained (handler : l.handler? s hs = some h) :
    (l.before.encounter.drained l.exit.id h).scopes.pending .root =
      if l.TakesRoot s hs then [] else l.before.scopes.pending .root := by
  rw [Progress.pending_drained, Progress.scopes_encounter]
  simp only [TakesRoot, handler, Option.mem_def, Option.some.injEq, exists_eq_left',
    and_comm, eq_comm]

theorem roots_of_refused {d : Diagnostic} (handler : l.handler? s hs = some h)
    (made : h.make s l.exit.node (l.before.scopes.pending l.exit.id) = .error d) :
    (l.before.encounter.drained l.exit.id h).scopes.pending .root =
      l.roots s hs (l.before.scopes.pending .root) := by
  rw [pending_root_drained handler]
  simp [roots, root?, handler, made, Except.toOption]

/-- A query that was made is registered before the exit can still fail. -/
theorem roots_of_made {q : Query} (handler : l.handler? s hs = some h)
    (made : h.make s l.exit.node (l.before.scopes.pending l.exit.id) = .ok q) :
    ((l.before.encounter.drained l.exit.id h).convert l.exit.scope
        ⟨q, l.exit.node.span⟩).scopes.pending .root =
      l.roots s hs (l.before.scopes.pending .root) := by
  rw [Progress.scopes_convert, Scopes.pending_register, pending_root_drained handler, roots,
    root?, handler]
  by_cases top : l.exit.scope = .root
  · simp [top, made, Except.toOption]
  · simp [top, Ne.symm top]

variable (s hs) in
/-- What an exit leaves at the root, in any of the ways in which it can end. -/
theorem pending_root_after (hl : l.before.Counted) :
    (l.after s hs).scopes.pending .root = l.roots s hs (l.before.scopes.pending .root) := by
  have ends := Progress.exitNode_exits s hs l.exit hl
  have after : l.after s hs = Event.stateOf (Progress.exitNode s hs l.exit l.before) := rfl
  generalize Progress.exitNode s hs l.exit l.before = result at ends after
  cases ends with
  | nested refused =>
    rw [after, roots_of_none (handler?_of_nested refused)]
    rfl
  | ordered plain kind | unordered plain kind =>
    rw [after, roots_of_none (handler?_of_orderBy plain kind)]
    rfl
  | unhandled plain kind handler =>
    rw [after, roots_of_none ((handler?_of_plain plain kind).trans handler)]
    rfl
  | refused plain kind handler made =>
    rw [after, Event.stateOf_error, roots_of_refused ((handler?_of_plain plain kind).trans handler)
      made]
  | converted plain kind handler made =>
    rw [after, Event.stateOf_ok, roots_of_made ((handler?_of_plain plain kind).trans handler) made]
  | uncovered plain kind handler made _ state =>
    rw [after, Event.stateOf_error, state,
      roots_of_made ((handler?_of_plain plain kind).trans handler) made]

theorem handler?_eq_some :
    l.handler? s hs = some h ↔ l.IsCounted s ∧ hs.get? l.exit.node.kind = some h := by
  unfold handler? IsCounted
  cases l.exit.node.rejectNested s with
  | error d => simp
  | ok => by_cases kind : l.exit.node.kind.makesQuery <;> simp [kind]

theorem exists_of_root?_eq_some {q : Spanned Query} (put : l.root? s hs = some q) :
    l.IsCounted s ∧ l.IsMade s hs := by
  unfold root? at put
  split at put
  · obtain ⟨h, handler, made⟩ := Option.bind_eq_some_iff.1 put
    obtain ⟨counted, found⟩ := handler?_eq_some.1 handler
    refine ⟨counted, h, ?_⟩
    cases outcome : h.make s l.exit.node (l.before.scopes.pending l.exit.id) with
    | ok q' => exact ⟨q', found, rfl⟩
    | error d => simp [outcome, Except.toOption] at made
  · cases put

/-- An exit that puts a query at the root fails just when a node was lost before it. -/
theorem Counts.fails_iff (counts : l.Counts s hs) (counted : l.IsCounted s)
    (made : l.IsMade s hs) : l.Fails s hs ↔ 0 < l.before.coverage.missing := by
  cases counts with
  | spared uncounted => exact absurd counted uncounted
  | converted succeeds complete => simp [succeeds, complete]
  | uncovered fails incomplete => simp [fails, incomplete]
  | lost _ _ unmade => exact absurd made unmade

end Leaving

/-! ## Along a run -/

namespace Journal

section
variable (s : Setting) (hs : Handlers)

/-- The queries that exits leave at the root. -/
def roots (ls : List Leaving) : List (Spanned Query) := ls.foldl (fun qs l => l.roots s hs qs) []

/-- One of the exits put the query at the root, found none there or took what was there, and
no later exit put another there or took it. -/
def SoleRoot (ls : List Leaving) (q : Spanned Query) : Prop :=
  ∃ front l back, ls = front ++ l :: back ∧ l.root? s hs = some q ∧
    (l.TakesRoot s hs ∨ roots s hs front = []) ∧
    ∀ l' ∈ back, ¬ l'.TakesRoot s hs ∧ l'.root? s hs = none

/-- The root holds what the exits have left there. -/
structure Rooted (j : Journal) : Prop where
  counted : j.progress.Counted
  waiting : j.progress.scopes.pending .root = roots s hs j.leavings

end

variable {s : Setting} {hs : Handlers} {j : Journal}

theorem roots_concat (ls : List Leaving) (l : Leaving) :
    roots s hs (ls ++ [l]) = l.roots s hs (roots s hs ls) := by
  rw [roots, List.foldl_append]
  rfl

theorem SoleRoot.concat {ls : List Leaving} {q : Spanned Query} (sole : SoleRoot s hs ls q)
    {l : Leaving} (kept : ¬ l.TakesRoot s hs) (none : l.root? s hs = none) :
    SoleRoot s hs (ls ++ [l]) q := by
  obtain ⟨front, l', back, rfl, put, before, after⟩ := sole
  refine ⟨front, l', back ++ [l], by simp, put, before, fun l'' h => ?_⟩
  rcases List.mem_append.1 h with h | h
  · exact after l'' h
  · obtain rfl := List.mem_singleton.1 h
    exact ⟨kept, none⟩

theorem roots_append_of_spared {ls back : List Leaving}
    (spared : ∀ l ∈ back, ¬ l.TakesRoot s hs ∧ l.root? s hs = none) :
    roots s hs (ls ++ back) = roots s hs ls := by
  induction back using List.reverseRecOn with
  | nil => rw [List.append_nil]
  | append_singleton back l ih =>
    obtain ⟨kept, none⟩ := spared l (by simp)
    rw [← List.append_assoc, roots_concat, ih fun l' hl' => spared l' (by simp [hl']),
      Leaving.roots, if_neg kept, none]
    exact List.append_nil _

theorem roots_eq_singleton_iff (ls : List Leaving) (q : Spanned Query) :
    roots s hs ls = [q] ↔ SoleRoot s hs ls q := by
  constructor
  · intro single
    induction ls using List.reverseRecOn with
    | nil => cases single
    | append_singleton ls l ih =>
      rw [roots_concat, Leaving.roots] at single
      cases put : l.root? s hs with
      | none =>
        rw [put] at single
        by_cases takes : l.TakesRoot s hs
        · simp [takes] at single
        · exact (ih (by simpa [takes] using single)).concat takes put
      | some q' =>
        -- The exit is the last that touched the root, so its query is the one.
        rw [put] at single
        obtain ⟨cleared, own⟩ := (List.append_eq_singleton_iff.1 single).resolve_right (by simp)
        obtain rfl : q' = q := List.singleton_inj.1 own
        refine ⟨ls, l, [], rfl, put, ?_, by simp⟩
        by_cases takes : l.TakesRoot s hs
        · exact .inl takes
        · exact .inr (by simpa [takes] using cleared)
  · rintro ⟨front, l, back, rfl, put, before, after⟩
    rw [List.append_cons, roots_append_of_spared after, roots_concat, Leaving.roots, put]
    rcases before with takes | empty
    · rw [if_pos takes]
      rfl
    · rw [empty, ite_self]
      rfl

theorem Rooted.left (h : j.Rooted s hs) (x : NodeExit) : (j.left s hs x).Rooted s hs := by
  have counts : Leaving.Counts s hs ⟨x, j.progress⟩ := Leaving.counts_of_counted h.counted
  have waiting := Leaving.pending_root_after s hs (l := ⟨x, j.progress⟩) h.counted
  refine ⟨counts.grows.counted h.counted, ?_⟩
  rw [Journal.left, waiting, h.waiting, roots_concat]

theorem preserved_rooted : Preserved s hs (Rooted s hs) where
  opened h := ⟨h.counted, h.waiting⟩
  left x h := h.left x

theorem rooted_run (s : Setting) (hs : Handlers) (calls : List Call) :
    Notes (Rooted s hs) (run s hs calls) (Session.run s hs calls).progress :=
  preserved_rooted.run ⟨Nat.le_refl 0, rfl⟩ calls

end Journal

theorem Translation.exists_rootQuery_iff (t : Translation) :
    (∃ q, t.rootQuery = .ok q) ↔ t.roots.length = 1 := by
  simp only [rootQuery_eq_ok, List.length_eq_one_iff]
  exact ⟨fun ⟨q, span, single⟩ => ⟨⟨q, span⟩, single⟩, fun ⟨q, single⟩ => ⟨q.value, q.span, single⟩⟩

namespace Session

theorem call_of_error {s : Setting} {hs : Handlers} {σ : Session} {c : Call} {d : Diagnostic}
    {p : Progress} (h : c.event s hs σ.progress = .error d p) :
    σ.call s hs c = ⟨p, σ.failures ++ [d]⟩ := by
  rw [call, h]

/-- A run hands out a query, with or without the ordering terms, exactly when one of its exits
put that query at the root, found none there or took what was there, and no later exit put
another there or took it. Failures do not matter to this: an exit that puts a query there
fails just when a node was lost before it, and a walk that is refused changes nothing but the
list of failures. -/
theorem handsOut_iff (s : Setting) (hs : Handlers) (calls : List Call)
    (source : Option Source) :
    let σ := run s hs calls
    let done := σ.progress.finish source
    let exits := (Journal.run s hs calls).leavings
    done.roots = Journal.roots s hs exits ∧
      (∀ q, done.rootQuery = .ok q ↔ ∃ span, Journal.SoleRoot s hs exits ⟨q, span⟩) ∧
      (∀ r, done.result = .ok r ↔
        (∃ span, Journal.SoleRoot s hs exits ⟨r.query, span⟩) ∧
          r.options = .ofOrders σ.progress.orders) ∧
      (∀ l ∈ exits, ∀ q, l.root? s hs = some q →
        (l.Fails s hs ↔ l.before.coverage.converted < l.before.coverage.encountered)) ∧
      ∀ n scope d, n.rejectNested s = .error d →
        run s hs (calls ++ [.walk n scope]) = ⟨σ.progress, σ.failures ++ [d]⟩ := by
  intro σ done exits
  obtain ⟨same, rooted⟩ := Journal.rooted_run s hs calls
  have roots : done.roots = Journal.roots s hs exits := by
    rw [← rooted.waiting, same]
    rfl
  refine ⟨roots, fun q => ?_, fun r => ?_, fun l hl q put => ?_, fun n scope d refused => ?_⟩
  · simp only [Translation.rootQuery_eq_ok, roots, Journal.roots_eq_singleton_iff]
  · rw [Translation.result_eq_ok, roots]
    simp only [Journal.roots_eq_singleton_iff]
    constructor
    · rintro ⟨⟨q, span⟩, sole, rfl⟩
      exact ⟨⟨span, sole⟩, rfl⟩
    · rintro ⟨⟨span, sole⟩, options⟩
      obtain ⟨query, _⟩ := r
      exact ⟨_, sole, congrArg (ParseResult.mk query) options⟩
  · obtain ⟨-, sound⟩ := Journal.notes_run s hs calls
    obtain ⟨counted, made⟩ := Leaving.exists_of_root?_eq_some put
    rw [(Leaving.counts_of_counted (sound.found l hl)).fails_iff counted made]
    exact Int.sub_pos.trans Int.ofNat_lt
  · have fails : (Call.walk n scope).event s hs σ.progress = .error d σ.progress :=
      Progress.walk_of_nested refused
    rw [run, List.foldl_append, List.foldl_cons, List.foldl_nil]
    exact call_of_error fails

/-- A walk that fails at an empty negation hands out the predicate in front of it. -/
theorem handsOut_after_failure :
    let σ := run people .default
      [.walkTree { nodes := [.leaf .has "name", .scope .not []] }]
    let done := σ.progress.finish none
    σ.failures ≠ [] ∧ done.rootQuery = .ok (.has ⟨"name", .string⟩) ∧
      done.result = .ok ⟨.has ⟨"name", .string⟩, {}⟩ := by
  refine ⟨?_, rfl, rfl⟩
  exact List.cons_ne_nil _ _

end Session

/-! ## Whole trees -/

namespace Node

variable {s : Setting} {removed : List NodeKind}

theorem length_queries_of_reading {n : Node} {before : Nat} {r : Reading}
    (h : n.reading s removed before = .ok r) :
    r.queries.length = if n.kind.makesQuery then 1 else 0 := by
  cases says_of_reading h with
  | scope kind => simp [NodeKind.makesQuery, NodeKind.ne_orderBy_of_isScope kind]
  | leaf _ order => simp [NodeKind.makesQuery, order]
  | clause kind => simp [NodeKind.makesQuery, kind]

theorem length_queries_of_readingAll {ns : List Node} {before : Nat} {r : Reading}
    (h : readingAll s removed ns before = .ok r) :
    r.queries.length = ns.countP (·.kind.makesQuery) := by
  induction ns generalizing before r with
  | nil =>
    cases h
    rfl
  | cons n ns ih =>
    obtain ⟨r₁, r₂, h₁, h₂, rfl⟩ := readingAll_cons_eq_ok.1 h
    rw [Reading.append, List.length_append, length_queries_of_reading h₁, ih h₂,
      List.countP_cons, Nat.add_comm]

end Node

namespace Progress

variable {s : Setting} {removed : List NodeKind}

/-- A walk along siblings that fails has read those in front of one that cannot be read, and
leaves their queries in the scope around. -/
theorem walkAll_fails (ns : List Node) (scope : ScopeId) {p p' : Progress} {d : Diagnostic}
    (hp : p.Complete) (hs : p.scopes.Hosts scope)
    (h : walkAll s (.without removed) ns scope p = .error d p') :
    ∃ front n back r, ns = front ++ n :: back ∧
      Node.readingAll s removed front p.coverage.converted = .ok r ∧
      n.reading s removed (p.coverage.converted + Node.queryCountAll front) = .error d ∧
      p'.scopes.pending scope = p.scopes.pending scope ++ r.queries := by
  induction ns generalizing p with
  | nil => cases h
  | cons n ns ih =>
    rw [walkAll] at h
    have follows := @walk_follows s removed n scope p hp hs
    generalize hw : walk s (.without removed) n scope p = result at follows
    generalize hr : n.reading s removed p.coverage.converted = reading at follows
    cases follows with
    | error d' p'' =>
      rw [Event.bind_of_error hw] at h
      cases h
      have spared := (walk_stops n [] scope hp hs hw).2 scope hs.isOpen
      refine ⟨[], n, ns, {}, rfl, rfl, ?_, ?_⟩
      · rw [Node.queryCountAll, Nat.add_zero, hr]
      · rw [spared, List.append_nil]
    | ok r =>
      rw [Event.bind_of_ok hw] at h
      obtain ⟨front, n', back, r', split, read, unread, waiting⟩ :=
        ih (hp.advance ..) (hs.grown ..) h
      refine ⟨n :: front, n', back, r.append r', by rw [split, List.cons_append], ?_, ?_, ?_⟩
      · exact Node.readingAll_cons_eq_ok.2 ⟨r, r', hr, read, rfl⟩
      · rw [Node.queryCountAll, ← Nat.add_assoc]
        exact unread
      · rw [waiting, advance, Scopes.pending_grown, if_pos rfl, List.append_assoc,
          Reading.append]

end Progress

/-- After a run that lost nothing, a walk over a tree that fails leaves at the root what was
there and the queries of the top-level nodes in front of the one that it failed in. The caller
is handed a query if these are one in all. -/
theorem Session.handsOut_of_walkTree_fails (s : Setting) (removed : List NodeKind)
    {calls : List Call} (admitted : Admits s (.without removed) {} calls)
    (complete : (run s (.without removed) calls).progress.Complete) (tree : ParseTree)
    (source : Option Source) {d : Diagnostic} {p : Progress}
    (h : Progress.walkTree s (.without removed) tree (run s (.without removed) calls).progress =
      .error d p) :
    let before := (run s (.without removed) calls).progress
    ∃ front n back r, tree.nodes = front ++ n :: back ∧
      Node.readingAll s removed front before.coverage.converted = .ok r ∧
      n.reading s removed (before.coverage.converted + Node.queryCountAll front) = .error d ∧
      (p.finish source).roots = (before.finish source).roots ++ r.queries ∧
      ((∃ q, (p.finish source).rootQuery = .ok q) ↔
        (before.finish source).roots.length + front.countP (·.kind.makesQuery) = 1) := by
  intro before
  have tidy : before.scopes.Tidy := (sound_run admitted).bounded.tidy Scopes.tidy_empty
  obtain ⟨front, n, back, r, split, read, unread, waiting⟩ :=
    Progress.walkAll_fails tree.nodes .root complete tidy.hosts_root h
  have roots : (p.finish source).roots = (before.finish source).roots ++ r.queries := waiting
  refine ⟨front, n, back, r, split, read, unread, roots, ?_⟩
  rw [Translation.exists_rootQuery_iff, roots, List.length_append,
    Node.length_queries_of_readingAll read]

end FilterQuery
