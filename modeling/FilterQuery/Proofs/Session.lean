import FilterQuery.Proofs.Walk

/-!
# Sessions

A caller may send the events of a traversal in any order, with any identity that was
handed out, whether or not the order is that of a tree. No query is lost or made twice:
until a call fails, the nodes of all the queries that wait anywhere are as many as the
conversions and the encounters. A failed call may lose queries but never adds any.
-/
namespace FilterQuery

/-! ## The nodes that wait -/

namespace Scopes

/-- The number of nodes of all the queries in a queue. -/
def weight (qs : List (Spanned Query)) : Nat := Query.totalCount (qs.map (·.value))

@[simp] theorem weight_nil : weight [] = 0 := rfl

@[simp] theorem weight_append (qs qs' : List (Spanned Query)) :
    weight (qs ++ qs') = weight qs + weight qs' := by
  simp [weight, Query.totalCount_append]

@[simp] theorem weight_cons (q : Spanned Query) (qs : List (Spanned Query)) :
    weight (q :: qs) = q.value.nodeCount + weight qs := rfl

theorem weight_perm {qs qs' : List (Spanned Query)} (h : qs.Perm qs') :
    weight qs = weight qs' := by
  induction h with
  | nil => rfl
  | cons q _ ih => rw [weight_cons, weight_cons, ih]
  | swap q q' qs =>
    simp only [weight_cons]
    omega
  | trans _ _ ih ih' => exact ih.trans ih'

/-- The number of nodes of all the queries that wait anywhere. -/
def total (s : Scopes) : Nat := weight (s.children.toList.flatMap (·.2))

/-- The number of nodes of the queries that are left once those at the root were taken. -/
def discarded (s : Scopes) : Nat := (s.cleared .root).total

theorem nodup_toList (m : Std.ExtTreeMap ScopeId (List (Spanned Query))) : m.toList.Nodup :=
  m.distinct_keys_toList.imp fun distinct same =>
    distinct (Std.compare_eq_iff_eq.2 (congrArg Prod.fst same))

/-- The entries of a map are that of a scope, if it has one, and those without it. -/
theorem toList_perm (m : Std.ExtTreeMap ScopeId (List (Spanned Query))) (id : ScopeId) :
    m.toList.Perm ((m[id]?.map (id, ·)).toList ++ (m.erase id).toList) := by
  refine (List.perm_ext_iff_of_nodup (nodup_toList m) ?_).2 fun ⟨id', qs⟩ => ?_
  · refine List.nodup_append.2 ⟨by cases m[id]? <;> simp, nodup_toList _, ?_⟩
    rintro ⟨id', qs⟩ own _ rest rfl
    obtain ⟨rfl, -⟩ : id = id' ∧ m[id]? = some qs := by
      cases found : m[id]? <;> simp_all
    simp [Std.ExtTreeMap.mem_toList_iff_getElem?_eq_some] at rest
  · simp only [List.mem_append, Std.ExtTreeMap.mem_toList_iff_getElem?_eq_some,
      Std.ExtTreeMap.getElem?_erase, Std.compare_eq_iff_eq, Option.mem_toList,
      Option.map_eq_some_iff, Prod.mk.injEq]
    by_cases same : id = id'
    · subst same
      simp
    · simp [same]

/-- Taking from a scope takes from the total what waited there. -/
theorem total_cleared (s : Scopes) (id : ScopeId) :
    (s.cleared id).total + weight (s.pending id) = s.total := by
  have entries := weight_perm ((toList_perm s.children id).flatMap_right (·.2))
  rw [List.flatMap_append, weight_append] at entries
  have own : weight ((s.children[id]?.map (id, ·)).toList.flatMap (·.2)) =
      weight (s.pending id) := by
    simp only [pending, takeChildren]
    cases s.children[id]? <;> simp
  rw [own] at entries
  simp only [total, cleared, takeChildren]
  omega

theorem weight_root_add_discarded (s : Scopes) :
    weight (s.pending .root) + s.discarded = s.total := by
  rw [discarded, Nat.add_comm, total_cleared]

@[simp] theorem total_opened (s : Scopes) : s.opened.total = s.total := rfl

theorem total_register (s : Scopes) (id : ScopeId) (q : Spanned Query) :
    (s.register id q).total = s.total + q.value.nodeCount := by
  have before := s.total_cleared id
  have after := (s.register id q).total_cleared id
  rw [cleared_register, pending_register, if_pos rfl, weight_append] at after
  simp only [weight_cons, weight_nil] at after
  omega

end Scopes

/-! ## What an event changes -/

theorem Leaf.Accepts.isScope_eq_false {s : Setting} {n : Node} {k : NodeKind} {q : Query}
    (h : Accepts s n k q) : k.isScope = false := by
  obtain ⟨build, hb, -⟩ := exists_builder_of_accepts h
  cases k <;> first | rfl | cases hb

/-- A node adds one to the nodes that it takes out of its own scope, if it has one. -/
theorem Node.Forms.nodeCount_eq {s : Setting} {n : Node} {inner : List (Spanned Query)}
    {q : Query} (h : n.Forms s inner q) :
    q.nodeCount = 1 + if n.kind.isScope then Scopes.weight inner else 0 := by
  cases h with
  | and kind _ => simp [kind, NodeKind.isScope, Query.nodeCount, Scopes.weight]
  | or kind _ => simp [kind, NodeKind.isScope, Query.nodeCount, Scopes.weight]
  | not kind inside => simp [kind, NodeKind.isScope, Query.nodeCount, inside]
  | predicate accepts =>
    rw [Query.nodeCount_eq, accepts.children_eq_nil, accepts.isScope_eq_false]
    rfl

namespace Progress

/-- Nothing was lost on the way from one state to another: as many nodes wait more as were
converted, and all that was encountered was converted. -/
structure Exact (p p' : Progress) : Prop where
  opened : p.scopes.lastOpened ≤ p'.scopes.lastOpened
  tidy : p.scopes.Tidy → p'.scopes.Tidy
  waiting : p'.scopes.total + p.coverage.converted = p.scopes.total + p'.coverage.converted
  converted :
    p'.coverage.converted + p.coverage.encountered =
      p.coverage.converted + p'.coverage.encountered

/-- Nothing came from nowhere on the way from one state to another. -/
structure Bounded (p p' : Progress) : Prop where
  opened : p.scopes.lastOpened ≤ p'.scopes.lastOpened
  tidy : p.scopes.Tidy → p'.scopes.Tidy
  waiting : p'.scopes.total + p.coverage.converted ≤ p.scopes.total + p'.coverage.converted
  converted :
    p'.coverage.converted + p.coverage.encountered ≤
      p.coverage.converted + p'.coverage.encountered

section
variable {p p' p'' : Progress}

theorem Exact.refl (p : Progress) : p.Exact p := ⟨Nat.le_refl _, id, rfl, rfl⟩

theorem Exact.trans (h : p.Exact p') (h' : p'.Exact p'') : p.Exact p'' := by
  obtain ⟨opened, tidy, waiting, converted⟩ := h
  obtain ⟨opened', tidy', waiting', converted'⟩ := h'
  exact ⟨by omega, fun hp => tidy' (tidy hp), by omega, by omega⟩

theorem Exact.bounded (h : p.Exact p') : p.Bounded p' :=
  ⟨h.opened, h.tidy, Nat.le_of_eq h.waiting, Nat.le_of_eq h.converted⟩

theorem Bounded.trans (h : p.Bounded p') (h' : p'.Bounded p'') : p.Bounded p'' := by
  obtain ⟨opened, tidy, waiting, converted⟩ := h
  obtain ⟨opened', tidy', waiting', converted'⟩ := h'
  exact ⟨by omega, fun hp => tidy' (tidy hp), by omega, by omega⟩

theorem Bounded.counted (h : p.Bounded p') (hp : p.Counted) : p'.Counted := by
  have converted := h.converted
  unfold Counted at hp ⊢
  omega

theorem Bounded.isOpen (h : p.Bounded p') {id : ScopeId} (hid : p.scopes.IsOpen id) :
    p'.scopes.IsOpen id := Nat.le_trans hid h.opened

end

/-- An event that succeeds is exact, and one that fails is bounded. -/
inductive Accounts (p : Progress) : EStateM.Result Diagnostic Progress Unit → Prop
  | ok {p' : Progress} (exact : p.Exact p') : Accounts p (.ok () p')
  | error {p' : Progress} (d : Diagnostic) (bounded : p.Bounded p') : Accounts p (.error d p')

theorem Accounts.after {p p' : Progress} {result : EStateM.Result Diagnostic Progress Unit}
    (h : p.Exact p') (h' : p'.Accounts result) : p.Accounts result := by
  cases h' with
  | ok exact => exact .ok (h.trans exact)
  | error d bounded => exact .error d (h.bounded.trans bounded)

theorem Accounts.bind {p : Progress} {x : Event Unit} {f : Unit → Event Unit}
    (hx : p.Accounts (x p)) (hf : ∀ p', p.Exact p' → p'.Accounts (f () p')) :
    p.Accounts ((x >>= f) p) := by
  generalize hr : x p = result at hx
  cases hx with
  | ok exact =>
    rw [Event.bind_of_ok hr]
    exact (hf _ exact).after exact
  | error d bounded =>
    rw [Event.bind_of_error hr]
    exact .error d bounded

theorem exact_entered (p : Progress) : p.Exact p.entered :=
  ⟨Nat.le_succ _, fun tidy => tidy.opened, by simp, by simp⟩

theorem bounded_drained (p : Progress) (id : ScopeId) (h : Handler) :
    p.Bounded (p.encounter.drained id h) := by
  cases h with
  | leaf build => exact ⟨Nat.le_refl _, fun tidy => tidy, Nat.le_refl _, by simp [drained]⟩
  | scope reduce =>
    have taken := p.scopes.total_cleared id
    refine ⟨Nat.le_refl _, fun tidy => tidy.cleared id, ?_, by simp [drained]⟩
    simp only [drained, scopes_encounter, converted_encounter]
    omega

/-- The query of a node weighs one more than what was taken out for it. -/
theorem exact_converted {s : Setting} {removed : List NodeKind} {x : NodeExit} {h : Handler}
    {q : Query} {p : Progress} (hs : p.scopes.IsOpen x.scope)
    (handler : (Handlers.without removed).get? x.node.kind = some h)
    (made : h.make s x.node (p.scopes.pending x.id) = .ok q) :
    p.Exact ((p.encounter.drained x.id h).convert x.scope ⟨q, x.node.span⟩) := by
  have read : x.node.readQuery s removed 0 (p.scopes.pending x.id) = .ok q := by
    rw [Node.readQuery_eq, handler]
    exact made
  -- A scope passed as its own surroundings is emptied before it is registered into.
  have weight := (Node.readQuery_eq_ok.1 read).2.nodeCount_eq
  rw [drained_eq_left handler]
  unfold left
  split
  next hk =>
    have taken := p.scopes.total_cleared x.id
    refine ⟨Nat.le_refl _, fun tidy => (tidy.cleared x.id).register hs _, ?_, ?_⟩
    · simp only [scopes_convert, converted_convert, scopes_encounter, converted_encounter,
        Scopes.total_register]
      simp only [if_pos hk] at weight
      omega
    · simp only [converted_convert, encountered_convert, converted_encounter,
        encountered_encounter]
      omega
  next hk =>
    refine ⟨Nat.le_refl _, fun tidy => tidy.register hs _, ?_, ?_⟩
    · simp only [scopes_convert, converted_convert, scopes_encounter, converted_encounter,
        Scopes.total_register]
      simp only [if_neg hk] at weight
      omega
    · simp only [converted_convert, encountered_convert, converted_encounter,
        encountered_encounter]
      omega

section
variable {s : Setting} {removed : List NodeKind}

theorem exitNode_accounts (x : NodeExit) {p : Progress} (hp : p.Counted)
    (hs : p.scopes.IsOpen x.scope) : p.Accounts (exitNode s (.without removed) x p) := by
  have hx := exitNode_exits s (.without removed) x hp
  generalize exitNode s (.without removed) x p = result at hx ⊢
  cases hx with
  | nested => exact .error _ (Exact.refl p).bounded
  | ordered => exact .ok ⟨Nat.le_refl _, id, rfl, rfl⟩
  | unordered => exact .error _ ⟨Nat.le_refl _, id, Nat.le_refl _, Nat.le_refl _⟩
  | unhandled => exact .error _ ⟨Nat.le_refl _, id, Nat.le_refl _, by simp⟩
  | refused => exact .error _ (bounded_drained ..)
  | converted _ _ handler made _ => exact .ok (exact_converted hs handler made)
  | uncovered _ _ handler made _ state =>
    subst state
    exact .error _ (exact_converted hs handler made).bounded

mutual

theorem walk_accounts (n : Node) (scope : ScopeId) {p : Progress} (hp : p.Counted)
    (hs : p.scopes.IsOpen scope) : p.Accounts (walk s (.without removed) n scope p) := by
  match n with
  | ⟨kind, span, name, values, flags, type, terms, children⟩ =>
    generalize hn : (⟨kind, span, name, values, flags, type, terms, children⟩ : Node) = n
    have hc : n.children = children := by rw [← hn]
    cases plain : n.rejectNested s with
    | error d =>
      rw [walk_of_nested plain]
      exact .error d (Exact.refl p).bounded
    | ok =>
      by_cases hk : n.kind.isScope
      · rw [walk_of_scope hk, hc]
        -- No scope is ever closed for good, so the one around is still open after the children.
        have inside := walkAll_accounts children p.scopes.next (p := p.entered) hp
          Scopes.isOpen_next
        refine (inside.bind fun p' exact => ?_).after p.exact_entered
        exact exitNode_accounts _ (exact.bounded.counted hp) (exact.bounded.isOpen hs.opened)
      · rw [walk_of_leaf hk ((Node.rejectNested_eq_ok.1 plain).resolve_left hk)]
        exact exitNode_accounts _ hp hs

theorem walkAll_accounts (ns : List Node) (scope : ScopeId) {p : Progress} (hp : p.Counted)
    (hs : p.scopes.IsOpen scope) : p.Accounts (walkAll s (.without removed) ns scope p) := by
  match ns with
  | [] =>
    rw [walkAll]
    exact .ok (Exact.refl p)
  | n :: ns =>
    rw [walkAll]
    refine (walk_accounts n scope hp hs).bind fun p' exact => ?_
    exact walkAll_accounts ns scope (exact.bounded.counted hp) (exact.bounded.isOpen hs)

end

end

end Progress

/-! ## Runs -/

/-- What a caller can ask of a translation. -/
inductive Call
  | openScope
  | exitNode (x : NodeExit)
  | walk (n : Node) (scope : ScopeId)
  | walkTree (tree : ParseTree)

namespace Call

def event (s : Setting) (hs : Handlers) : Call → Event Unit
  | openScope => do
    let _ ← Progress.openScope
    return ()
  | exitNode x => Progress.exitNode s hs x
  | walk n scope => Progress.walk s hs n scope
  | walkTree tree => Progress.walkTree s hs tree

/-- The identities that the caller passes. -/
def ids : Call → List ScopeId
  | openScope | walkTree _ => []
  | exitNode x => [x.scope, x.id]
  | walk _ scope => [scope]

theorem event_accounts {s : Setting} {removed : List NodeKind} (c : Call) {p : Progress}
    (hp : p.Counted) (hs : ∀ id ∈ c.ids, p.scopes.IsOpen id) :
    p.Accounts (c.event s (.without removed) p) := by
  cases c with
  | openScope => exact .ok p.exact_entered
  | exitNode x => exact Progress.exitNode_accounts x hp (hs x.scope (by simp [ids]))
  | walk n scope => exact Progress.walk_accounts n scope hp (hs scope (by simp [ids]))
  | walkTree tree => exact Progress.walkAll_accounts tree.nodes .root hp p.scopes.isOpen_root

end Call

/-- A translation in the hands of a caller, with the failures that it has returned. -/
structure Session where
  progress : Progress := {}
  failures : List Diagnostic := []

namespace Session

/-- A failed call keeps what it had done, and the caller may go on. -/
def call (s : Setting) (hs : Handlers) (σ : Session) (c : Call) : Session :=
  match c.event s hs σ.progress with
  | .ok () p => { σ with progress := p }
  | .error d p => ⟨p, σ.failures ++ [d]⟩

def run (s : Setting) (hs : Handlers) (calls : List Call) : Session :=
  calls.foldl (call s hs) {}

/-- Whenever a call is made, the identities in it have been handed out. -/
def Admits (s : Setting) (hs : Handlers) : Session → List Call → Prop
  | _, [] => True
  | σ, c :: cs => (∀ id ∈ c.ids, σ.progress.scopes.IsOpen id) ∧ Admits s hs (σ.call s hs c) cs

instance decidableAdmits (s : Setting) (hs : Handlers) :
    (σ : Session) → (cs : List Call) → Decidable (Admits s hs σ cs)
  | _, [] => inferInstanceAs (Decidable True)
  | σ, c :: cs =>
    have : Decidable (Admits s hs (σ.call s hs c) cs) := decidableAdmits s hs (σ.call s hs c) cs
    inferInstanceAs (Decidable ((∀ id ∈ c.ids, σ.progress.scopes.IsOpen id) ∧ _))

/-- What holds of a session as it goes on. -/
structure Sound (σ : Session) : Prop where
  bounded : ({} : Progress).Bounded σ.progress
  exact : σ.failures = [] → ({} : Progress).Exact σ.progress

section
variable {s : Setting} {removed : List NodeKind} {σ : Session}

theorem sound_call (hσ : σ.Sound) (c : Call)
    (hs : ∀ id ∈ c.ids, σ.progress.scopes.IsOpen id) :
    (σ.call s (.without removed) c).Sound := by
  have counted : σ.progress.Counted := hσ.bounded.counted (Nat.le_refl 0)
  have hc : σ.progress.Accounts (c.event s (.without removed) σ.progress) :=
    c.event_accounts counted hs
  unfold call
  generalize c.event s (.without removed) σ.progress = result at hc ⊢
  cases hc with
  | ok exact => exact ⟨hσ.bounded.trans exact.bounded, fun h => (hσ.exact h).trans exact⟩
  | error d bounded => exact ⟨hσ.bounded.trans bounded, by simp⟩

theorem sound_foldl (hσ : σ.Sound) {calls : List Call} (h : Admits s (.without removed) σ calls) :
    (calls.foldl (call s (.without removed)) σ).Sound := by
  induction calls generalizing σ with
  | nil => exact hσ
  | cons c calls ih => exact ih (sound_call hσ c h.1) h.2

theorem sound_run {calls : List Call} (h : Admits s (.without removed) {} calls) :
    (run s (.without removed) calls).Sound :=
  sound_foldl ⟨(Progress.Exact.refl {}).bounded, fun _ => .refl {}⟩ h

end

/-- However a translation is used, the nodes that wait are at most the conversions, which
are at most the encounters. Until a call fails all three are equal, and what the end of the
traversal throws away is what was converted and is not at the root. -/
theorem account_of_admits (s : Setting) (removed : List NodeKind) (calls : List Call)
    (admitted : Admits s (.without removed) {} calls) (source : Option Source) :
    let σ := run s (.without removed) calls
    let p := σ.progress
    (p.scopes.total ≤ p.coverage.converted ∧ p.coverage.converted ≤ p.coverage.encountered) ∧
      (σ.failures = [] →
        p.scopes.total = p.coverage.converted ∧
        p.coverage.converted = p.coverage.encountered ∧
        Scopes.weight (p.finish source).roots + p.scopes.discarded = p.coverage.converted) := by
  intro σ p
  have sound : σ.Sound := sound_run admitted
  have empty : ({} : Progress).scopes.total = 0 := rfl
  refine ⟨?_, fun hf => ?_⟩
  · obtain ⟨-, -, waiting, converted⟩ := sound.bounded
    simp only [empty, Nat.zero_add, Nat.add_zero] at waiting converted
    exact ⟨waiting, converted⟩
  · obtain ⟨-, -, waiting, converted⟩ := sound.exact hf
    simp only [empty, Nat.zero_add, Nat.add_zero] at waiting converted
    refine ⟨waiting, converted, ?_⟩
    rw [← waiting]
    exact p.scopes.weight_root_add_discarded

def people : Setting := (Translator.ofText ⟨"person"⟩).setting none

/-- A scope that encloses itself, is used again once it was left, and keeps a query. -/
def reuse : List Call :=
  let own : ScopeId := ⟨1⟩
  [.openScope, .exitNode ⟨.leaf .has "name", own, own⟩, .exitNode ⟨.scope .and [], own, own⟩,
    .exitNode ⟨.leaf .has "name", own, own⟩, .exitNode ⟨.scope .or [], .root, own⟩,
    .walk (.scope .not [.leaf .has "name"]) own, .walkTree { nodes := [.leaf .has "name"] }]

theorem account_of_admits_reuse :
    let σ := run people (.without [.between]) reuse
    let p := σ.progress
    σ.failures = [] ∧ p.scopes.total = p.coverage.converted ∧
      p.coverage.converted = p.coverage.encountered ∧
      Scopes.weight (p.finish none).roots + p.scopes.discarded = p.coverage.converted :=
  ⟨rfl, (account_of_admits people [.between] reuse (by decide) none).2 rfl⟩

end Session

end FilterQuery
