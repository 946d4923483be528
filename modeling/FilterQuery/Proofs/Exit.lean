import FilterQuery.Translation.Translator
import FilterQuery.Proofs.Acceptance
import FilterQuery.Proofs.Scopes

/-!
# Leaving a node

`Exits` lists the ways in which leaving a node can end, each with the state that it
leaves behind, for a translation that has never converted more than it encountered.
What holds of a traversal is derived from these cases and not from the event itself.
-/
namespace FilterQuery

namespace Event

variable {α β : Type} {x : Event α} {f : α → Event β} {p p' : Progress} {a : α} {d : Diagnostic}

theorem bind_of_ok (h : x p = .ok a p') : (x >>= f) p = f a p' := by
  simp [bind, EStateM.bind, h]

theorem bind_of_error (h : x p = .error d p') : (x >>= f) p = .error d p' := by
  simp [bind, EStateM.bind, h]

theorem modify_eq (g : Progress → Progress) : (modify g : Event Unit) p = .ok () (g p) := rfl

theorem modifyGet_eq (g : Progress → α × Progress) :
    (modifyGet g : Event α) p = .ok (g p).1 (g p).2 := rfl

end Event

/-- One term of an ordering clause, with its attribute resolved. -/
def Setting.readTerm (s : Setting) (span : Span) (t : OrderTerm) : Except Diagnostic Order :=
  (s.resolve t.attributeName .ordered span).map fun a => ⟨a, isDescending t.direction⟩

/-- The terms of an ordering clause, resolved in the order of the clause. -/
def Setting.readTerms (s : Setting) (span : Span) (ts : List OrderTerm) :
    Except Diagnostic (List Order) :=
  ts.mapM (s.readTerm span)

namespace Setting

variable {s : Setting} {span : Span}

theorem readTerm_eq_ok {t : OrderTerm} {o : Order} :
    s.readTerm span t = .ok o ↔
      s.resolver t.attributeName.text .ordered = .ok o.key ∧
        o.descending = isDescending t.direction := by
  have resolved : s.resolve t.attributeName .ordered span = .ok o.key ↔ _ := resolve_eq_ok
  rw [readTerm, ← resolved]
  cases s.resolve t.attributeName .ordered span with
  | error d => simp [Except.map]
  | ok a =>
    obtain ⟨key, descending⟩ := o
    simp [Except.map, eq_comm]

theorem readTerms_cons_eq_ok {t : OrderTerm} {ts : List OrderTerm} {os : List Order} :
    s.readTerms span (t :: ts) = .ok os ↔
      ∃ o os', s.readTerm span t = .ok o ∧ s.readTerms span ts = .ok os' ∧ os = o :: os' := by
  unfold readTerms
  rw [List.mapM_cons, bind_eq_ok]
  constructor
  · rintro ⟨o, ho, h⟩
    obtain ⟨os', hos', h⟩ := bind_eq_ok.1 h
    cases h
    exact ⟨o, os', ho, hos', rfl⟩
  · rintro ⟨o, os', ho, hos', rfl⟩
    exact ⟨o, ho, bind_eq_ok.2 ⟨os', hos', rfl⟩⟩

theorem exists_of_mem_readTerms {ts : List OrderTerm} {os : List Order} {o : Order}
    (h : s.readTerms span ts = .ok os) (ho : o ∈ os) :
    ∃ t ∈ ts, s.readTerm span t = .ok o := by
  induction ts generalizing os with
  | nil =>
    cases h
    cases ho
  | cons t ts ih =>
    obtain ⟨o', os', ho', hos', rfl⟩ := readTerms_cons_eq_ok.1 h
    rcases List.mem_cons.1 ho with rfl | ho
    · exact ⟨t, List.mem_cons_self, ho'⟩
    · obtain ⟨u, hu, huo⟩ := ih hos' ho
      exact ⟨u, List.mem_cons_of_mem t hu, huo⟩

theorem readTerms_withSource {ts : List OrderTerm} {os : List Order}
    (h : s.readTerms span ts = .ok os) (source : Option Source) :
    { s with source }.readTerms span ts = .ok os := by
  induction ts generalizing os with
  | nil => exact h
  | cons t ts ih =>
    obtain ⟨o, os', ho, hos', rfl⟩ := readTerms_cons_eq_ok.1 h
    have same := readTerm_eq_ok.1 ho
    exact readTerms_cons_eq_ok.2 ⟨o, os', readTerm_eq_ok.2 same, ih hos', rfl⟩

end Setting

namespace Progress

/-- The translation with further ordering terms. -/
def ordered (p : Progress) (os : List Order) : Progress := { p with orders := p.orders ++ os }

section
variable (p : Progress) (os : List Order)

@[simp] theorem scopes_ordered : (p.ordered os).scopes = p.scopes := rfl
@[simp] theorem coverage_ordered : (p.ordered os).coverage = p.coverage := rfl
@[simp] theorem orders_ordered : (p.ordered os).orders = p.orders ++ os := rfl

@[simp] theorem ordered_nil : p.ordered [] = p := by simp [ordered]

@[simp] theorem ordered_ordered (os' : List Order) :
    (p.ordered os).ordered os' = p.ordered (os ++ os') := by simp [ordered]

end

section
variable {s : Setting} {span : Span} {t : OrderTerm} {ts : List OrderTerm} {d : Diagnostic}

theorem collect_cons_of_ok {o : Order} (h : s.readTerm span t = .ok o) (p : Progress) :
    collect s span (t :: ts) p = collect s span ts (p.ordered [o]) := by
  unfold Setting.readTerm at h
  cases ha : s.resolve t.attributeName .ordered span with
  | error d => simp [ha, Except.map] at h
  | ok a =>
    obtain rfl : _ = o := by simpa [ha, Except.map] using h
    rw [collect, ha]
    rfl

theorem collect_cons_of_error (h : s.readTerm span t = .error d) (p : Progress) :
    collect s span (t :: ts) p = .error d p := by
  unfold Setting.readTerm at h
  cases ha : s.resolve t.attributeName .ordered span with
  | error d' =>
    obtain rfl : d' = d := by simpa [ha, Except.map] using h
    rw [collect, ha]
    rfl
  | ok a => simp [ha, Except.map] at h

theorem collect_of_ok {os : List Order} (h : s.readTerms span ts = .ok os) (p : Progress) :
    collect s span ts p = .ok () (p.ordered os) := by
  induction ts generalizing p os with
  | nil =>
    cases h
    simp [collect, pure, EStateM.pure]
  | cons t ts ih =>
    obtain ⟨o, os', ho, hos', rfl⟩ := Setting.readTerms_cons_eq_ok.1 h
    rw [collect_cons_of_ok ho, ih hos', ordered_ordered]
    rfl

/-- A clause with a term that does not resolve leaves the terms before it behind. -/
theorem collect_of_error (h : s.readTerms span ts = .error d) (p : Progress) :
    ∃ os, collect s span ts p = .error d (p.ordered os) := by
  unfold Setting.readTerms at h
  induction ts generalizing p with
  | nil => cases h
  | cons t ts ih =>
    rw [List.mapM_cons, bind_eq_error] at h
    rcases h with h | ⟨o, ho, h⟩
    · exact ⟨[], by rw [collect_cons_of_error h, ordered_nil]⟩
    · rcases bind_eq_error.1 h with h | ⟨os', -, h⟩
      · obtain ⟨os, hos⟩ := ih h (p.ordered [o])
        exact ⟨_, by rw [collect_cons_of_ok ho, hos, ordered_ordered]⟩
      · cases h

end

/-! ## Counting and converting -/

section
variable (p : Progress)

@[simp] theorem scopes_encounter : p.encounter.scopes = p.scopes := rfl
@[simp] theorem orders_encounter : p.encounter.orders = p.orders := rfl
@[simp] theorem encountered_encounter :
    p.encounter.coverage.encountered = p.coverage.encountered + 1 := rfl
@[simp] theorem converted_encounter :
    p.encounter.coverage.converted = p.coverage.converted := rfl

variable (scope : ScopeId) (q : Spanned Query)

@[simp] theorem scopes_convert : (p.convert scope q).scopes = p.scopes.register scope q := rfl
@[simp] theorem orders_convert : (p.convert scope q).orders = p.orders := rfl
@[simp] theorem encountered_convert :
    (p.convert scope q).coverage.encountered = p.coverage.encountered := rfl
@[simp] theorem converted_convert :
    (p.convert scope q).coverage.converted = p.coverage.converted + 1 := rfl

/-- The scopes once a handler has run: a reducer has emptied the node's own. -/
def drained (id : ScopeId) : Handler → Progress → Progress
  | .leaf _, p => p
  | .scope _, p => { p with scopes := p.scopes.cleared id }

@[simp] theorem coverage_drained (id : ScopeId) (h : Handler) :
    (p.drained id h).coverage = p.coverage := by cases h <;> rfl

end

end Progress

/-- What a handler makes of a node and of the queries that wait in its scope. -/
def Handler.make (s : Setting) (n : Node) (inner : List (Spanned Query)) :
    Handler → Except Diagnostic Query
  | .leaf build => build s n
  | .scope reduce => reduce s n inner

namespace Progress

theorem apply_eq (s : Setting) (x : NodeExit) (h : Handler) (p : Progress) :
    p.apply s x h = (h.make s x.node (p.scopes.pending x.id), p.drained x.id h) := by
  cases h <;> rfl

theorem finish_eq (p : Progress) (source : Option Source) :
    p.finish source =
      { roots := p.scopes.pending .root, orders := p.orders,
        encountered := p.coverage.encountered, converted := p.coverage.converted, source } :=
  rfl

/-- The failure of a translation that has not converted all that it encountered. -/
def shortfall (p : Progress) (s : Setting) (n : Node) : Diagnostic :=
  (Failure.unconverted n.kind p.coverage.encountered p.coverage.converted).report
    s.source n.span []

/-- Never more conversions than encounters. -/
def Counted (p : Progress) : Prop := p.coverage.converted ≤ p.coverage.encountered

theorem checkCoverage_of_complete {p : Progress} (s : Setting) (n : Node)
    (h : p.coverage.encountered = p.coverage.converted) : checkCoverage s n p = .ok () p := by
  simp [checkCoverage, Coverage.isComplete, h]

theorem checkCoverage_of_lt {p : Progress} (s : Setting) (n : Node)
    (h : p.coverage.converted < p.coverage.encountered) :
    checkCoverage s n p = .error (p.shortfall s n) p := by
  have hne : p.coverage.encountered ≠ p.coverage.converted := by omega
  simp [checkCoverage, Coverage.isComplete, hne, shortfall]

/-! ## The event -/

section
variable {s : Setting} {hs : Handlers} {x : NodeExit} {p : Progress} {h : Handler}

theorem convertNode_of_none (hk : hs.get? x.node.kind = none) :
    convertNode s hs x p = checkCoverage s x.node p.encounter := by
  simp only [convertNode, hk]
  rfl

theorem convertNode_of_refused {d : Diagnostic} (hk : hs.get? x.node.kind = some h)
    (hm : h.make s x.node (p.scopes.pending x.id) = .error d) :
    convertNode s hs x p = .error d (p.encounter.drained x.id h) := by
  have ha : p.encounter.apply s x h = (.error d, p.encounter.drained x.id h) := by
    rw [apply_eq, scopes_encounter, hm]
  simp only [convertNode, hk]
  rw [Event.bind_of_ok (Event.modify_eq _), Event.bind_of_ok (Event.modifyGet_eq _), ha]
  rfl

theorem convertNode_of_made {q : Query} (hk : hs.get? x.node.kind = some h)
    (hm : h.make s x.node (p.scopes.pending x.id) = .ok q) :
    convertNode s hs x p =
      checkCoverage s x.node
        ((p.encounter.drained x.id h).convert x.scope ⟨q, x.node.span⟩) := by
  have ha : p.encounter.apply s x h = (.ok q, p.encounter.drained x.id h) := by
    rw [apply_eq, scopes_encounter, hm]
  simp only [convertNode, hk]
  rw [Event.bind_of_ok (Event.modify_eq _), Event.bind_of_ok (Event.modifyGet_eq _), ha]
  rfl

theorem exitNode_of_nested {d : Diagnostic} (hn : x.node.rejectNested s = .error d) :
    exitNode s hs x p = .error d p := by
  rw [exitNode, hn]
  rfl

theorem exitNode_of_plain (hn : x.node.rejectNested s = .ok ()) :
    exitNode s hs x p =
      if x.node.kind.makesQuery then convertNode s hs x p
      else collect s x.node.span x.node.orderTerms p := by
  rw [exitNode, hn]
  change (if x.node.kind.makesQuery then _ else _ : Event Unit) p = _
  split <;> rfl

end

/-- The ways in which leaving a node can end. -/
inductive Exits (s : Setting) (hs : Handlers) (x : NodeExit) (p : Progress) :
    EStateM.Result Diagnostic Progress Unit → Prop
  | nested {d : Diagnostic} (refused : x.node.rejectNested s = .error d) :
      Exits s hs x p (.error d p)
  | ordered {os : List Order} (plain : x.node.rejectNested s = .ok ())
      (kind : x.node.kind = .orderBy)
      (terms : s.readTerms x.node.span x.node.orderTerms = .ok os) :
      Exits s hs x p (.ok () (p.ordered os))
  | unordered {d : Diagnostic} {os : List Order} (plain : x.node.rejectNested s = .ok ())
      (kind : x.node.kind = .orderBy)
      (terms : s.readTerms x.node.span x.node.orderTerms = .error d) :
      Exits s hs x p (.error d (p.ordered os))
  | unhandled (plain : x.node.rejectNested s = .ok ()) (kind : x.node.kind ≠ .orderBy)
      (handler : hs.get? x.node.kind = none) :
      Exits s hs x p (.error (p.encounter.shortfall s x.node) p.encounter)
  | refused {h : Handler} {d : Diagnostic} (plain : x.node.rejectNested s = .ok ())
      (kind : x.node.kind ≠ .orderBy) (handler : hs.get? x.node.kind = some h)
      (made : h.make s x.node (p.scopes.pending x.id) = .error d) :
      Exits s hs x p (.error d (p.encounter.drained x.id h))
  | converted {h : Handler} {q : Query} (plain : x.node.rejectNested s = .ok ())
      (kind : x.node.kind ≠ .orderBy) (handler : hs.get? x.node.kind = some h)
      (made : h.make s x.node (p.scopes.pending x.id) = .ok q)
      (complete : p.coverage.encountered = p.coverage.converted) :
      Exits s hs x p
        (.ok () ((p.encounter.drained x.id h).convert x.scope ⟨q, x.node.span⟩))
  /-- The query was made and registered, but an earlier node had not been converted. -/
  | uncovered {h : Handler} {q : Query} {p' : Progress}
      (plain : x.node.rejectNested s = .ok ())
      (kind : x.node.kind ≠ .orderBy) (handler : hs.get? x.node.kind = some h)
      (made : h.make s x.node (p.scopes.pending x.id) = .ok q)
      (incomplete : p.coverage.converted < p.coverage.encountered)
      (state : p' = (p.encounter.drained x.id h).convert x.scope ⟨q, x.node.span⟩) :
      Exits s hs x p (.error (p'.shortfall s x.node) p')

theorem exitNode_exits (s : Setting) (hs : Handlers) (x : NodeExit) {p : Progress}
    (hp : p.Counted) : Exits s hs x p (exitNode s hs x p) := by
  cases hn : x.node.rejectNested s with
  | error d =>
    rw [exitNode_of_nested hn]
    exact .nested hn
  | ok =>
    rw [exitNode_of_plain hn]
    by_cases hk : x.node.kind = .orderBy
    · rw [if_neg (by simp [NodeKind.makesQuery, hk])]
      cases ht : s.readTerms x.node.span x.node.orderTerms with
      | ok os =>
        rw [collect_of_ok ht]
        exact .ordered hn hk ht
      | error d =>
        obtain ⟨os, hos⟩ := collect_of_error ht p
        rw [hos]
        exact .unordered hn hk ht
    · rw [if_pos (by simpa [NodeKind.makesQuery] using hk)]
      cases hh : hs.get? x.node.kind with
      | none =>
        rw [convertNode_of_none hh, checkCoverage_of_lt _ _ (Nat.lt_succ_of_le hp)]
        exact .unhandled hn hk hh
      | some h =>
        cases hm : h.make s x.node (p.scopes.pending x.id) with
        | error d =>
          rw [convertNode_of_refused hh hm]
          exact .refused hn hk hh hm
        | ok q =>
          rw [convertNode_of_made hh hm]
          rcases Nat.eq_or_lt_of_le hp with hc | hc
          · rw [checkCoverage_of_complete _ _ (by simp [hc])]
            exact .converted hn hk hh hm hc.symm
          · rw [checkCoverage_of_lt _ _ (by simpa using hc)]
            exact .uncovered hn hk hh hm hc rfl

end Progress

end FilterQuery
