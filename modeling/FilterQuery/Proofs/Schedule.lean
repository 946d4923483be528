import FilterQuery.Proofs.Contribution
import FilterQuery.Proofs.Walk

/-!
# Schedules

A caller with a traversal of its own opens a scope for each boolean node and leaves every
node once. It may interleave the nodes of different scopes and open scopes in any order:
as long as scopes are left after what they contain and siblings are left in source order,
the outcome is that of a walk.
-/
namespace FilterQuery

/-- A step of a caller. -/
inductive Step
  /-- Opens a scope for the node at the address. -/
  | enter (a : Address)
  /-- Leaves the node at the address. -/
  | exit (a : Address)
  /-- Opens a scope that no node uses. -/
  | spare
  deriving DecidableEq

/-- The identities that a caller keeps, by the address of the node. -/
abbrev Names := Address → ScopeId

namespace Step

def entered? : Step → Option Address
  | enter a => some a
  | _ => none

def exited? : Step → Option Address
  | exit a => some a
  | _ => none

/-- The nodes that scopes are opened for, in the order of opening. -/
def enters (steps : List Step) : List Address := steps.filterMap entered?

/-- The nodes that are left, in the order of leaving. -/
def exits (steps : List Step) : List Address := steps.filterMap exited?

/-- One step is taken before another. -/
def Precedes (steps : List Step) (x y : Step) : Prop := [x, y].Sublist steps

/-- Takes a step. A node that is no scope has no identity of its own, and the caller
passes whatever it likes. -/
def perform (s : Setting) (hs : Handlers) (t : ParseTree) (plain : Address → ScopeId) :
    Step → Names → Event Names
  | .enter a, names => do
    let id ← Progress.openScope
    return Function.update names a id
  | .exit a, names =>
    match t.node? a with
    | none => return names
    | some n => do
      Progress.exitNode s hs
        ⟨n, names a.tail, if n.kind.isScope then names a else plain a⟩
      return names
  | .spare, names => do
    let _ ← Progress.openScope
    return names

/-- Takes the steps one after the other, up to the first that fails. -/
def drive (s : Setting) (hs : Handlers) (t : ParseTree) (plain : Address → ScopeId) :
    List Step → Names → Event Names
  | [], names => pure names
  | step :: steps, names => do
    let names ← step.perform s hs t plain names
    drive s hs t plain steps names

section
variable (steps steps' : List Step) (a : Address)

@[simp] theorem enters_append : enters (steps ++ steps') = enters steps ++ enters steps' :=
  List.filterMap_append

@[simp] theorem exits_append : exits (steps ++ steps') = exits steps ++ exits steps' :=
  List.filterMap_append

@[simp] theorem enters_enter : enters (.enter a :: steps) = a :: enters steps := rfl
@[simp] theorem exits_enter : exits (.enter a :: steps) = exits steps := rfl
@[simp] theorem exits_exit : exits (.exit a :: steps) = a :: exits steps := rfl
@[simp] theorem exits_spare : exits (.spare :: steps) = exits steps := rfl
@[simp] theorem exits_nil : exits [] = [] := rfl

variable {steps a}

theorem mem_enters : a ∈ enters steps ↔ .enter a ∈ steps := by
  simp only [enters, List.mem_filterMap]
  constructor
  · rintro ⟨step, hs, h⟩
    cases step <;> cases h
    exact hs
  · exact fun h => ⟨_, h, rfl⟩

theorem mem_exits : a ∈ exits steps ↔ .exit a ∈ steps := by
  simp only [exits, List.mem_filterMap]
  constructor
  · rintro ⟨step, hs, h⟩
    cases step <;> cases h
    exact hs
  · exact fun h => ⟨_, h, rfl⟩

variable {x y : Step} {before after : List Step}

theorem Precedes.mem_before (h : Precedes (before ++ y :: after) x y) (hy : y ∉ after) :
    x ∈ before := by
  obtain ⟨u, v, huv, hu, hv⟩ := List.sublist_append_iff.1 h
  match u with
  | [] =>
    rw [List.nil_append] at huv
    subst huv
    rcases List.sublist_cons_iff.1 hv with hv | ⟨r, hr, hv⟩
    · exact absurd (hv.subset (by simp)) hy
    · cases hr
      exact absurd (hv.subset (by simp)) hy
  | x' :: u =>
    obtain rfl : x = x' := (List.cons.inj huv).1
    exact hu.subset List.mem_cons_self

theorem Precedes.mem_after (h : Precedes (before ++ x :: after) x y) (hx : x ∉ before) :
    y ∈ after := by
  obtain ⟨u, v, huv, hu, hv⟩ := List.sublist_append_iff.1 h
  match u with
  | [] =>
    rw [List.nil_append] at huv
    subst huv
    rcases List.sublist_cons_iff.1 hv with hv | ⟨r, hr, hv⟩
    · exact hv.subset (by simp)
    · cases hr
      exact hv.subset (by simp)
  | x' :: u =>
    obtain rfl : x = x' := (List.cons.inj huv).1
    exact absurd (hu.subset List.mem_cons_self) hx

end

end Step

/-- The node at `b` makes a query directly inside the node at `a`. -/
def ParseTree.queryIn (t : ParseTree) (a b : Address) : Bool := b.tail = a && t.makesQuery b

open Step in
/-- What a traversal must observe. -/
structure Schedule (t : ParseTree) (steps : List Step) : Prop where
  /-- Each boolean node has a scope opened for it, and one only. -/
  entered : (enters steps).Perm (t.addresses.filter t.isScope)
  /-- Each node is left, and once only. -/
  exited : (exits steps).Perm t.addresses
  /-- A boolean node is left after its scope was opened. -/
  own : ∀ a ∈ t.addresses, t.isScope a → Precedes steps (.enter a) (.exit a)
  /-- A node is left after the scope around it was opened. -/
  around : ∀ a ∈ t.addresses, a.tail ≠ [] → Precedes steps (.enter a.tail) (.exit a)
  /-- A node is left before the node around it. -/
  inside : ∀ a ∈ t.addresses, a.tail ≠ [] → Precedes steps (.exit a) (.exit a.tail)
  /-- The nodes that make the queries of one scope are left in source order. -/
  queries : ∀ a ∈ [] :: t.addresses,
    (exits steps).filter (t.queryIn a) = (t.within a).filter t.makesQuery
  /-- Ordering clauses are left in document order. -/
  clauses : (exits steps).filter t.isClause = t.addresses.filter t.isClause

namespace Schedule

open Step

instance (steps : List Step) (x y : Step) : Decidable (Precedes steps x y) :=
  inferInstanceAs (Decidable (List.Sublist _ _))

instance (t : ParseTree) (steps : List Step) : Decidable (Schedule t steps) :=
  decidable_of_iff
    ((enters steps).Perm (t.addresses.filter t.isScope) ∧ (exits steps).Perm t.addresses ∧
      (∀ a ∈ t.addresses, t.isScope a → Precedes steps (.enter a) (.exit a)) ∧
      (∀ a ∈ t.addresses, a.tail ≠ [] → Precedes steps (.enter a.tail) (.exit a)) ∧
      (∀ a ∈ t.addresses, a.tail ≠ [] → Precedes steps (.exit a) (.exit a.tail)) ∧
      (∀ a ∈ [] :: t.addresses,
        (exits steps).filter (t.queryIn a) = (t.within a).filter t.makesQuery) ∧
      (exits steps).filter t.isClause = t.addresses.filter t.isClause)
    ⟨fun ⟨h₁, h₂, h₃, h₄, h₅, h₆, h₇⟩ => ⟨h₁, h₂, h₃, h₄, h₅, h₆, h₇⟩,
      fun ⟨h₁, h₂, h₃, h₄, h₅, h₆, h₇⟩ => ⟨h₁, h₂, h₃, h₄, h₅, h₆, h₇⟩⟩

/-! ## In the middle of a schedule -/

section
variable {t : ParseTree} {steps done todo : List Step} {a b : Address}

theorem nodup_exits (h : Schedule t steps) : (exits steps).Nodup :=
  h.exited.nodup_iff.2 t.nodup_addresses

theorem nodup_enters (h : Schedule t steps) : (enters steps).Nodup :=
  h.entered.nodup_iff.2 (t.nodup_addresses.filter _)

theorem mem_addresses_of_exit (h : Schedule t steps) (ha : .exit a ∈ steps) :
    a ∈ t.addresses := h.exited.subset (mem_exits.2 ha)

theorem mem_addresses_of_enter (h : Schedule t steps) (ha : .enter a ∈ steps) :
    a ∈ t.addresses := (List.mem_filter.1 (h.entered.subset (mem_enters.2 ha))).1

theorem exit_not_mem_todo (h : Schedule t (done ++ todo)) (ha : .exit a ∈ done) :
    .exit a ∉ todo := by
  intro hb
  have nodup := h.nodup_exits
  rw [exits_append, List.nodup_append] at nodup
  exact nodup.2.2 a (mem_exits.2 ha) a (mem_exits.2 hb) rfl

theorem exit_not_mem_after (h : Schedule t (done ++ .exit a :: todo)) : .exit a ∉ todo := by
  have nodup := h.nodup_exits
  rw [exits_append, exits_exit, List.nodup_append, List.nodup_cons] at nodup
  exact fun hb => nodup.2.1.1 (mem_exits.2 hb)

theorem exit_not_mem_done (h : Schedule t (done ++ .exit a :: todo)) : .exit a ∉ done :=
  fun hd => h.exit_not_mem_todo hd List.mem_cons_self

theorem enter_not_mem_done (h : Schedule t (done ++ .enter a :: todo)) : .enter a ∉ done := by
  intro hd
  have nodup := h.nodup_enters
  rw [enters_append, enters_enter, List.nodup_append] at nodup
  exact nodup.2.2 a (mem_enters.2 hd) a List.mem_cons_self rfl

/-- No node inside a scope was left before that scope is opened. -/
theorem tail_ne_of_enter (h : Schedule t (done ++ .enter a :: todo)) (hb : .exit b ∈ done) :
    b.tail ≠ a := by
  rintro rfl
  have hne := t.ne_nil_of_mem_addresses (h.mem_addresses_of_enter (a := b.tail) (by simp))
  have before := h.around b (h.mem_addresses_of_exit (by simp [hb])) hne
  exact h.exit_not_mem_todo hb
    (List.mem_cons_of_mem _ (before.mem_after h.enter_not_mem_done))

/-- The queries inside a scope that is being left are all there. -/
theorem queries_of_exit (h : Schedule t (done ++ .exit a :: todo)) :
    (exits done).filter (t.queryIn a) = (t.within a).filter t.makesQuery := by
  have ha : a ∈ t.addresses := h.mem_addresses_of_exit (by simp)
  have hne := t.ne_nil_of_mem_addresses ha
  -- What is inside the node was left before it, and it does not stand inside itself.
  have rest : (a :: exits todo).filter (t.queryIn a) = [] := by
    rw [List.filter_eq_nil_iff]
    intro b hb
    have tail : b.tail ≠ a := by
      intro hba
      rcases List.mem_cons.1 hb with rfl | hb
      · have short := congrArg List.length hba
        have long := List.length_pos_of_ne_nil hne
        rw [List.length_tail] at short
        omega
      · have todo : .exit b ∈ todo := mem_exits.1 hb
        have before := h.inside b (h.mem_addresses_of_exit (by simp [todo])) (hba ▸ hne)
        rw [hba] at before
        exact h.exit_not_mem_todo (before.mem_before h.exit_not_mem_after)
          (List.mem_cons_of_mem _ todo)
    simp [ParseTree.queryIn, tail]
  have all := h.queries a (List.mem_cons_of_mem _ ha)
  rwa [exits_append, exits_exit, List.filter_append, rest, List.append_nil] at all

end

/-! ## What a caller has done so far -/

/-- A scope that the caller has an identity for. -/
def Named (done : List Step) (a : Address) : Prop := a = [] ∨ .enter a ∈ done

/-- The translation is as far as the steps that were taken: identities tell scopes apart,
and in each scope that was not left yet wait the queries of the nodes inside that were. -/
structure Tracks (t : ParseTree) (s : Setting) (done : List Step) (names : Names)
    (p : Progress) : Prop where
  root : names [] = .root
  tidy : p.scopes.Tidy
  opened : ∀ a, Named done a → p.scopes.IsOpen (names a)
  distinct : ∀ a b, Named done a → Named done b → names a = names b → a = b
  waiting : ∀ a, Named done a → .exit a ∉ done →
    p.scopes.pending (names a) = ((exits done).filter (·.tail = a)).flatMap (t.made s)
  coverage :
    p.coverage = ⟨(exits done).countP t.makesQuery, (exits done).countP t.makesQuery⟩
  orders : p.orders = (exits done).flatMap (t.told s)

section
variable {t : ParseTree} {s : Setting} {done todo : List Step} {names : Names} {p : Progress}
  {a b : Address}

theorem named_spare : Named (done ++ [.spare]) a ↔ Named done a := by simp [Named]

theorem named_exit : Named (done ++ [.exit b]) a ↔ Named done a := by simp [Named]

theorem named_enter : Named (done ++ [.enter b]) a ↔ Named done a ∨ a = b := by
  simp [Named, or_assoc]

theorem Tracks.complete (h : Tracks t s done names p) : p.Complete := by
  rw [Progress.Complete, h.coverage]

/-- What waits inside a scope from which nothing is missing. -/
theorem Tracks.waiting_all (h : Tracks t s done names p) (ha : Named done a)
    (hx : .exit a ∉ done)
    (all : (exits done).filter (t.queryIn a) = (t.within a).filter t.makesQuery) :
    p.scopes.pending (names a) = (t.nodesAt a).flatMap (Node.made s) := by
  have split : (exits done).filter (t.queryIn a) =
      ((exits done).filter (·.tail = a)).filter t.makesQuery := by
    rw [List.filter_filter]
    refine List.filter_congr fun b _ => ?_
    rw [ParseTree.queryIn, Bool.and_comm]
  rw [h.waiting a ha hx, ← flatMap_filter fun b _ => ParseTree.made_of_not_makesQuery,
    ← split, all, ParseTree.made_within]

theorem Tracks.spare (h : Tracks t s done names p) :
    Tracks t s (done ++ [.spare]) names p.entered where
  root := h.root
  tidy := h.tidy.opened
  opened a ha := (h.opened a (named_spare.1 ha)).opened
  distinct a b ha hb := h.distinct a b (named_spare.1 ha) (named_spare.1 hb)
  waiting a ha hx := by
    simpa using h.waiting a (named_spare.1 ha) (by simpa using hx)
  coverage := by simpa using h.coverage
  orders := by simpa using h.orders

theorem Tracks.enter (hs : Schedule t (done ++ .enter a :: todo))
    (h : Tracks t s done names p) :
    Tracks t s (done ++ [.enter a]) (Function.update names a p.scopes.next) p.entered := by
  have ha : a ≠ [] := t.ne_nil_of_mem_addresses (hs.mem_addresses_of_enter (by simp))
  -- The scope is new, so no identity in use is the one just handed out.
  have old : ∀ b, Named done b → b ≠ a := by
    rintro b hb rfl
    exact hb.elim ha hs.enter_not_mem_done
  have kept : ∀ b, Named done b → Function.update names a p.scopes.next b = names b :=
    fun b hb => Function.update_of_ne (old b hb) _ _
  have fresh : ∀ b, Named done b → names b ≠ p.scopes.next := fun b hb =>
    (h.opened b hb).ne_next
  constructor
  case root => rw [kept [] (.inl rfl), h.root]
  case tidy => exact h.tidy.opened
  case opened =>
    intro b hb
    rcases named_enter.1 hb with hb | rfl
    · rw [kept b hb]
      exact (h.opened b hb).opened
    · rw [Function.update_self]
      exact Scopes.isOpen_next
  case distinct =>
    intro b c hb hc same
    rcases named_enter.1 hb with nb | rfl <;> rcases named_enter.1 hc with nc | rfl
    · rw [kept b nb, kept c nc] at same
      exact h.distinct b c nb nc same
    · rw [kept b nb, Function.update_self] at same
      exact absurd same (fresh b nb)
    · rw [kept c nc, Function.update_self] at same
      exact absurd same.symm (fresh c nc)
    · rfl
  case waiting =>
    intro b hb hx
    rw [exits_append, exits_enter, exits_nil, List.append_nil, Progress.scopes_entered,
      Scopes.pending_opened]
    rcases named_enter.1 hb with hb | rfl
    · rw [kept b hb]
      exact h.waiting b hb (by simpa using hx)
    · have none : (exits done).filter (·.tail = b) = [] := by
        rw [List.filter_eq_nil_iff]
        intro c hc
        simpa using hs.tail_ne_of_enter (mem_exits.1 hc)
      rw [Function.update_self, h.tidy.pending_next, none]
      rfl
  case coverage => simpa using h.coverage
  case orders => simpa using h.orders

/-! ## Leaving a node -/

/-- The nodes that are left and stand inside a scope, after one more was. -/
theorem flatMap_made_exit (a b : Address) :
    ((exits (done ++ [.exit a])).filter (·.tail = b)).flatMap (t.made s) =
      ((exits done).filter (·.tail = b)).flatMap (t.made s) ++
        if b = a.tail then t.made s a else [] := by
  by_cases hb : b = a.tail
  · subst hb
    simp [List.filter_append]
  · simp [List.filter_append, hb, Ne.symm hb]

theorem Tracks.ordered (h : Tracks t s done names p) {n : Node} (hn : t.node? a = some n)
    (ho : n.kind = .orderBy) :
    Tracks t s (done ++ [.exit a]) names (p.ordered (n.told s)) := by
  have made : t.made s a = [] := by
    simp [ParseTree.made, hn, Node.made_of_orderBy ho]
  have told : t.told s a = n.told s := by simp [ParseTree.told, hn]
  have plain : t.makesQuery a = false := by
    simp [ParseTree.makesQuery, hn, ho, NodeKind.makesQuery]
  constructor
  case root => exact h.root
  case tidy => exact h.tidy
  case opened => exact fun b hb => h.opened b (named_exit.1 hb)
  case distinct =>
    exact fun b c hb hc => h.distinct b c (named_exit.1 hb) (named_exit.1 hc)
  case waiting =>
    intro b hb hx
    rw [flatMap_made_exit, made, ite_self, List.append_nil]
    exact h.waiting b (named_exit.1 hb) fun hx' => hx (List.mem_append_left _ hx')
  case coverage => simpa [plain] using h.coverage
  case orders => simp [h.orders, told]

theorem Tracks.converted (h : Tracks t s done names p) {n : Node} (hn : t.node? a = some n)
    (ho : n.kind ≠ .orderBy) (around : Named done a.tail) {id : ScopeId}
    (own : n.kind.isScope → id = names a ∧ Named done a) {q : Query}
    (hq : n.made s = [⟨q, n.span⟩]) :
    Tracks t s (done ++ [.exit a]) names
      ((p.encounter.left n.kind id).convert (names a.tail) ⟨q, n.span⟩) := by
  have made : t.made s a = [⟨q, n.span⟩] := by simp [ParseTree.made, hn, hq]
  have told : t.told s a = [] := by simp [ParseTree.told, hn, Node.told_of_ne ho]
  have makes : t.makesQuery a = true := by
    simp [ParseTree.makesQuery, hn, NodeKind.makesQuery, ho]
  have target := Progress.isOpen_left (h.opened a.tail around) n.kind id
  constructor
  case root => exact h.root
  case tidy => exact (Progress.tidy_left h.tidy n.kind id).register target _
  case opened =>
    exact fun b hb => Progress.isOpen_left (h.opened b (named_exit.1 hb)) n.kind id
  case distinct =>
    exact fun b c hb hc => h.distinct b c (named_exit.1 hb) (named_exit.1 hc)
  case waiting =>
    intro b hb hx
    have hb := named_exit.1 hb
    have hne : b ≠ a := by
      rintro rfl
      exact hx (by simp)
    -- The scope that a reducer empties is the node's own, which is no longer looked at.
    have kept : ¬ (n.kind.isScope ∧ names b = id) := by
      rintro ⟨hk, hid⟩
      obtain ⟨rfl, ha⟩ := own hk
      exact hne (h.distinct b a hb ha hid)
    have same : names b = names a.tail ↔ b = a.tail :=
      ⟨h.distinct b a.tail hb around, fun h => h ▸ rfl⟩
    rw [flatMap_made_exit, made, Progress.scopes_convert, Scopes.pending_register,
      Progress.pending_left, if_neg kept,
      ← h.waiting b hb fun hx' => hx (List.mem_append_left _ hx')]
    by_cases hbt : b = a.tail
    · rw [if_pos (same.2 hbt), if_pos hbt]
    · rw [if_neg fun h => hbt (same.1 h), if_neg hbt, List.append_nil]
  case coverage =>
    have counted := h.coverage
    simp only [Progress.left]
    split <;> simp [Progress.convert, Progress.encounter, counted, makes]
  case orders =>
    simp only [Progress.left]
    split <;> simp [h.orders, told]

theorem Tracks.exit (hs : Schedule t (done ++ .exit a :: todo)) (h : Tracks t s done names p)
    {n : Node} (hn : t.node? a = some n) (hr : n.Readable s) (other : ScopeId) :
    ∃ p', Progress.exitNode s .default
        ⟨n, names a.tail, if n.kind.isScope then names a else other⟩ p = .ok () p' ∧
      Tracks t s (done ++ [.exit a]) names p' := by
  have ha : a ∈ t.addresses := hs.mem_addresses_of_exit (by simp)
  have nested := Node.rejectNested_of_readable hr
  by_cases ho : n.kind = .orderBy
  · refine ⟨_, ?_, h.ordered hn ho⟩
    exact (Progress.exitNode_follows_readTerms nested ho .default).eq_ok
      (Node.readTerms_of_readable hr ho)
  · have around : Named done a.tail := by
      by_cases ht : a.tail = []
      · exact .inl ht
      · exact .inr ((hs.around a ha ht).mem_before hs.exit_not_mem_after)
    have own : n.kind.isScope →
        (if n.kind.isScope then names a else other) = names a ∧ Named done a := by
      intro hk
      refine ⟨if_pos hk, .inr ((hs.own a ha ?_).mem_before hs.exit_not_mem_after)⟩
      simp [ParseTree.isScope, hn, hk]
    have inner : n.kind.isScope →
        p.scopes.pending (if n.kind.isScope then names a else other) =
          n.children.flatMap (Node.made s) := by
      intro hk
      rw [(own hk).1, h.waiting_all (own hk).2 hs.exit_not_mem_done hs.queries_of_exit,
        ParseTree.nodesAt_of_node? hn]
    obtain ⟨q, hq, made⟩ :=
      Node.readQuery_of_readable hr ho p.coverage.converted inner
    refine ⟨_, ?_, h.converted hn ho around own made⟩
    exact (Progress.exitNode_follows_readQuery [] h.complete nested ho).eq_ok hq

theorem Tracks.perform {step : Step} (hs : Schedule t (done ++ step :: todo))
    (h : Tracks t s done names p) (readable : ∀ a n, (a, n) ∈ t.entries → n.Readable s)
    (plain : Address → ScopeId) :
    ∃ names' p', step.perform s .default t plain names p = .ok names' p' ∧
      Tracks t s (done ++ [step]) names' p' := by
  cases step with
  | enter a => exact ⟨_, _, rfl, h.enter hs⟩
  | spare => exact ⟨_, _, rfl, h.spare⟩
  | exit a =>
    have ha : a ∈ t.addresses := hs.mem_addresses_of_exit (by simp)
    obtain ⟨n, hm, hn⟩ := ParseTree.exists_of_mem_addresses ha
    obtain ⟨p', left, tracks⟩ := h.exit hs hn (readable a n hm) (plain a)
    refine ⟨names, p', ?_, tracks⟩
    simp only [Step.perform, hn]
    rw [Event.bind_of_ok left]
    rfl

theorem Tracks.drive (hs : Schedule t (done ++ todo)) (h : Tracks t s done names p)
    (readable : ∀ a n, (a, n) ∈ t.entries → n.Readable s) (plain : Address → ScopeId) :
    ∃ names' p', Step.drive s .default t plain todo names p = .ok names' p' ∧
      Tracks t s (done ++ todo) names' p' := by
  induction todo generalizing done names p with
  | nil => exact ⟨names, p, rfl, by simpa using h⟩
  | cons step todo ih =>
    obtain ⟨names₁, p₁, first, tracks⟩ := h.perform hs readable plain
    rw [List.append_cons] at hs
    obtain ⟨names₂, p₂, rest, tracks⟩ := ih hs tracks
    refine ⟨names₂, p₂, ?_, by simpa using tracks⟩
    rw [Step.drive, Event.bind_of_ok first]
    exact rest

/-- At the end of a schedule the translation is as a walk leaves it. -/
theorem Tracks.finish {steps : List Step} (hs : Schedule t steps)
    (h : Tracks t s steps names p) {r : Reading}
    (hr : Node.readingAll s [] t.nodes 0 = .ok r) (source : Option Source) :
    p.finish source =
      { roots := r.queries, orders := r.orders,
        encountered := Node.queryCountAll t.nodes,
        converted := Node.queryCountAll t.nodes, source } := by
  have top : .exit [] ∉ steps := fun hx =>
    t.ne_nil_of_mem_addresses (hs.mem_addresses_of_exit hx) rfl
  have roots : p.scopes.pending .root = r.queries := by
    rw [← h.root, h.waiting_all (.inl rfl) top (hs.queries [] List.mem_cons_self)]
    exact Node.made_of_readingAll hr
  have orders : p.orders = r.orders := by
    rw [h.orders, ← flatMap_filter fun b _ => ParseTree.told_of_not_isClause, hs.clauses,
      ParseTree.told_addresses hr]
  have count : (exits steps).countP t.makesQuery = Node.queryCountAll t.nodes := by
    rw [hs.exited.countP_eq, ParseTree.countP_addresses]
  simp only [Progress.finish_eq, roots, orders, h.coverage, count]

theorem tracks_nil : Tracks t s [] (fun _ => .root) {} := by
  have top : ∀ a, Named [] a → a = [] := by simp [Named]
  constructor
  case root => rfl
  case tidy => exact Scopes.tidy_empty
  case opened => exact fun _ _ => Scopes.isOpen_root _
  case distinct => exact fun a b ha hb _ => (top a ha).trans (top b hb).symm
  case waiting => exact fun _ _ _ => rfl
  case coverage => rfl
  case orders => rfl

end

/-- A tree that translates does so by every schedule: each step succeeds, whatever
identities are handed out to whom, and the outcome is that of a walk. -/
theorem finish_eq_translation (translator : Translator) (t : ParseTree) {done : Translation}
    (accepted : { translator with handlers := .default }.translation t = .ok done)
    {steps : List Step} (h : Schedule t steps) (plain : Address → ScopeId)
    (source : Option Source) :
    ∃ names p,
      drive (translator.setting source) .default t plain steps (fun _ => .root) {} =
        .ok names p ∧ p.finish source = { done with source } := by
  have default : { translator with handlers := .without [] }.translation t = .ok done :=
    accepted
  rw [Translator.translation_eq_map_outcome] at default
  obtain ⟨r, read, rfl⟩ := Literal.exists_of_map_eq_ok default
  have anywhere : Node.readingAll (translator.setting source) [] t.nodes 0 = .ok r :=
    Node.readingAll_withSource t.nodes read source 0
  have start : Schedule t ([] ++ steps) := h
  obtain ⟨names, p, driven, tracks⟩ :=
    tracks_nil.drive start (fun a n => ParseTree.readable_of_mem anywhere) plain
  exact ⟨names, p, driven, tracks.finish h anywhere source⟩

def people : Translator := .ofText ⟨"person"⟩

def nestedTree : ParseTree where
  nodes := [.scope .and [.leaf .has "name", .scope .not [.leaf .has "city"]],
    .leaf .has "mail", { kind := .orderBy, orderTerms := [⟨⟨"name", {}⟩, none⟩] }]

/-- The inner scope is opened first, and its node is left before that of the outer one. -/
def interleaved : List Step :=
  [.enter [1, 0], .exit [2], .exit [0, 1, 0], .spare, .enter [0], .exit [0, 0],
    .exit [1, 0], .exit [0], .exit [1]]

theorem finish_eq_translation_interleaved :
    ∃ done, people.translation nestedTree = .ok done ∧
      Schedule nestedTree interleaved ∧
      ∃ names p,
        drive (people.setting none) .default nestedTree (fun _ => ⟨9⟩) interleaved
          (fun _ => .root) {} = .ok names p ∧ p.finish none = { done with source := none } :=
  have observed : Schedule nestedTree interleaved := by decide
  ⟨_, rfl, observed,
    finish_eq_translation people nestedTree rfl observed (fun _ => ⟨9⟩) none⟩

end Schedule

end FilterQuery
