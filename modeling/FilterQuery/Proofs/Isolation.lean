import FilterQuery.Proofs.Session
import FilterQuery.Proofs.Stop

/-!
# Walks are isolated

Whatever a translation has been through, a walk that succeeds adds one query to the scope
that it was given, and only its own scopes besides. A walk that fails adds nothing to any
scope that was there before, if nothing had been lost until then.
-/
namespace FilterQuery

namespace Progress

/-- What a walk of a node inside a scope adds to a translation. -/
structure Adds (p : Progress) (n : Node) (scope : ScopeId) (p' : Progress) : Prop where
  here :
    if n.kind = .orderBy then p'.scopes.pending scope = p.scopes.pending scope
    else ∃ q, p'.scopes.pending scope = p.scopes.pending scope ++ [⟨q, n.span⟩]
  elsewhere : ∀ id, p.scopes.IsOpen id → id ≠ scope → p'.scopes.pending id = p.scopes.pending id
  /-- One scope is opened for each boolean node. -/
  opened : p'.scopes.lastOpened = p.scopes.lastOpened + n.scopeCount
  fresh : ∀ id, p'.scopes.IsOpen id → ¬ p.scopes.IsOpen id →
    id ≠ .root ∧ p'.scopes.pending id = []
  encountered : p'.coverage.encountered = p.coverage.encountered + n.queryCount
  converted : p'.coverage.converted = p.coverage.converted + n.queryCount

section
variable {s : Setting} {removed : List NodeKind} {n : Node} {scope : ScopeId} {p p' : Progress}

theorem adds_advance (hs : p.scopes.Hosts scope)
    {before : Nat} {r : Reading} (h : n.reading s removed before = .ok r) :
    p.Adds n scope (p.advance scope r n.queryCount n.scopeCount) where
  here := by
    have grown : (p.advance scope r n.queryCount n.scopeCount).scopes.pending scope =
        p.scopes.pending scope ++ r.queries := by
      simp [advance, Scopes.pending_grown]
    rw [grown]
    cases Node.says_of_reading h with
    | @scope _ q kind =>
      rw [if_neg (NodeKind.ne_orderBy_of_isScope kind)]
      exact ⟨q, rfl⟩
    | @leaf q _ order =>
      rw [if_neg order]
      exact ⟨q, rfl⟩
    | clause kind => rw [if_pos kind, List.append_nil]
  elsewhere id _ other := pending_advance p r _ _ other
  opened := by simp [advance]
  fresh id _ new := by
    have notRoot : id ≠ .root := by
      rintro rfl
      exact new p.scopes.isOpen_root
    have notHere : id ≠ scope := by
      rintro rfl
      exact new hs.isOpen
    refine ⟨notRoot, ?_⟩
    rw [pending_advance p r _ _ notHere]
    exact hs.tidy.pending_eq_nil new
  encountered := rfl
  converted := rfl

/-- A clause adds ordering terms and nothing else. -/
theorem adds_ordered (hk : n.kind = .orderBy) (hc : n.children = []) (os : List Order) :
    p.Adds n scope (p.ordered os) where
  here := by
    rw [if_pos hk]
    rfl
  elsewhere _ _ _ := rfl
  opened := by simp [Node.scopeCount_eq, hc, hk, Node.scopeCountAll, NodeKind.isScope]
  fresh id opened new := absurd opened new
  encountered := by simp [Node.queryCount_eq, hc, hk, Node.queryCountAll]
  converted := by simp [Node.queryCount_eq, hc, hk, Node.queryCountAll]

theorem exists_ordered_of_exitNode {x : NodeExit} (hp : p.Counted) (hn : ¬ p.Complete)
    (h : exitNode s (.without removed) x p = .ok () p') :
    x.node.kind = .orderBy ∧ ∃ os, p' = p.ordered os := by
  have hx := exitNode_exits s (.without removed) x hp
  rw [h] at hx
  cases hx with
  | @ordered os _ kind _ => exact ⟨kind, os, rfl⟩
  | converted _ _ _ _ complete => exact absurd complete hn

/-- Once something was lost, only ordering clauses can still be walked. -/
theorem adds_of_incomplete (hp : p.Counted) (hn : ¬ p.Complete)
    (h : walk s (.without removed) n scope p = .ok () p') : p.Adds n scope p' := by
  cases plain : n.rejectNested s with
  | error d =>
    rw [walk_of_nested plain] at h
    cases h
  | ok =>
    by_cases hk : n.kind.isScope
    · have inside := @walkAll_accounts s removed n.children p.scopes.next p.entered hp
        Scopes.isOpen_next
      rw [walk_of_scope hk] at h
      generalize hw : walkAll s (.without removed) n.children p.scopes.next p.entered = result
        at inside
      cases inside with
      | error d _ =>
        rw [Event.bind_of_error hw] at h
        cases h
      | @ok q exact =>
        rw [Event.bind_of_ok hw] at h
        have lost : ¬ q.Complete := by
          have converted := exact.converted
          simp only [coverage_entered] at converted
          unfold Complete at hn ⊢
          omega
        obtain ⟨order, -⟩ := exists_ordered_of_exitNode (exact.bounded.counted hp) lost h
        exact absurd order (NodeKind.ne_orderBy_of_isScope hk)
    · have hc := (Node.rejectNested_eq_ok.1 plain).resolve_left hk
      rw [walk_of_leaf hk hc] at h
      obtain ⟨order, os, rfl⟩ := exists_ordered_of_exitNode hp hn h
      exact adds_ordered order hc os

theorem adds_of_walk (hp : p.Counted) (hs : p.scopes.Hosts scope)
    (h : walk s (.without removed) n scope p = .ok () p') : p.Adds n scope p' := by
  by_cases complete : p.Complete
  · have follows := @walk_follows s removed n scope p complete hs
    rw [h] at follows
    generalize hr : n.reading s removed _ = reading at follows
    cases follows with
    | ok r => exact adds_advance hs hr
  · exact adds_of_incomplete hp complete h

end

end Progress

namespace Session

/-- In every state that calls can lead to, whether or not some of them failed, a walk that
succeeds adds one query to its scope and opens scopes of its own. A walk that fails leaves
every queue that was there before as it was, unless something had been lost before. -/
theorem walk_isolated (s : Setting) (removed : List NodeKind) (calls : List Call)
    (admitted : Admits s (.without removed) {} calls) (n : Node) (scope : ScopeId)
    (opened : (run s (.without removed) calls).progress.scopes.IsOpen scope) :
    let p := (run s (.without removed) calls).progress
    match Progress.walk s (.without removed) n scope p with
    | .ok _ p' => p.Adds n scope p'
    | .error _ p' =>
      p.coverage.encountered = p.coverage.converted →
        ∀ id, p.scopes.IsOpen id → p'.scopes.pending id = p.scopes.pending id := by
  intro p
  have bounded : ({} : Progress).Bounded p := (sound_run admitted).bounded
  have counted : p.Counted := bounded.counted (Nat.le_refl 0)
  have hosts : p.scopes.Hosts scope := ⟨bounded.tidy Scopes.tidy_empty, opened⟩
  cases h : Progress.walk s (.without removed) n scope p with
  | ok u p' => exact Progress.adds_of_walk counted hosts h
  | error d p' => exact fun complete => (Progress.walk_stops n [] scope complete hosts h).2

/-- Two queries wait in an open scope that is never left. -/
def leftover : List Call :=
  let own : ScopeId := ⟨1⟩
  [.openScope, .walk (.leaf .has "name") own, .walk (.scope .or [.leaf .has "name"]) own]

/-- A conjunction of three nodes before the one that fails, deep inside. -/
def knot : Node :=
  .scope .and [.leaf .has "name", .scope .or [.leaf .has "name", .scope .not []]]

theorem walk_isolated_leftover :
    let p := (run people (.without []) leftover).progress
    (p.scopes.pending ⟨1⟩).length = 2 ∧ p.coverage.encountered = p.coverage.converted ∧
      ∃ d p', Progress.walk people (.without []) knot ⟨1⟩ p = .error d p' ∧
        ∀ id, p.scopes.IsOpen id → p'.scopes.pending id = p.scopes.pending id :=
  ⟨rfl, rfl, _, _, rfl, walk_isolated people [] leftover (by decide) knot ⟨1⟩ (by decide) rfl⟩

end Session

end FilterQuery
