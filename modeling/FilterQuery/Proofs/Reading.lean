import FilterQuery.Proofs.Exit

/-!
# The reading of an expression

What a tree says, by recursion on the tree alone: no scopes, identities or counters are
involved. A node is read inside out, its children from left to right, and the first
failure is the failure of the whole. All that a node needs from its surroundings is the
number of queries that stand before it, for the message about a kind without a handler.
-/
namespace FilterQuery

/-- A handler for every known kind that makes a query, except for some. -/
def Handlers.without (removed : List NodeKind) : Handlers := removed.foldl Handlers.remove .default

theorem Handlers.get?_without (removed : List NodeKind) (k : NodeKind) :
    (Handlers.without removed).get? k =
      if k ∈ removed then none else Handler.default? k := by
  have foldl (hs : Handlers) :
      (removed.foldl Handlers.remove hs).get? k = if k ∈ removed then none else hs.get? k := by
    induction removed generalizing hs with
    | nil => rfl
    | cons r rs ih =>
      rw [List.foldl_cons, ih, Handlers.get?_remove]
      by_cases hr : k = r <;> by_cases hrs : k ∈ rs <;> simp [hr, hrs]
  exact foldl .default

section
variable {s : Setting} {n : Node} {qs : List (Spanned Query)} {q : Query}

theorem reduceJunction_eq_ok {op : Junction} :
    reduceJunction op s n qs = .ok q ↔ qs ≠ [] ∧ q = .junction op (qs.map (·.value)) := by
  unfold reduceJunction
  cases qs with
  | nil => simp
  | cons q' qs => simp [eq_comm]

theorem reduceNot_eq_ok :
    reduceNot s n qs = .ok q ↔ ∃ q', qs = [q'] ∧ q = .not q'.value := by
  match qs with
  | [] => simp [reduceNot]
  | [q'] => simp [reduceNot, eq_comm]
  | _ :: _ :: _ => simp [reduceNot]

end

theorem NodeKind.ne_orderBy_of_isScope {k : NodeKind} (h : k.isScope) : k ≠ .orderBy := by
  rintro rfl
  simp [isScope] at h

/-- What nodes contribute: the queries they make, each with the span of its node, and the
ordering terms among them. -/
structure Reading where
  queries : List (Spanned Query) := []
  orders : List Order := []

/-- What nodes contribute together with those to the right of them. -/
def Reading.append (r r' : Reading) : Reading := ⟨r.queries ++ r'.queries, r.orders ++ r'.orders⟩

namespace Node

mutual

/-- The number of nodes that make a query. -/
def queryCount : Node → Nat
  | ⟨kind, _, _, _, _, _, _, children⟩ =>
    queryCountAll children + if kind = .orderBy then 0 else 1

def queryCountAll : List Node → Nat
  | [] => 0
  | n :: ns => queryCount n + queryCountAll ns

end

mutual

/-- The number of boolean scopes. -/
def scopeCount : Node → Nat
  | ⟨kind, _, _, _, _, _, _, children⟩ =>
    scopeCountAll children + if kind.isScope then 1 else 0

def scopeCountAll : List Node → Nat
  | [] => 0
  | n :: ns => scopeCount n + scopeCountAll ns

end

/-- Nothing converts a node of its kind; `before` queries were made earlier. -/
def unconverted (s : Setting) (n : Node) (before : Nat) : Except Diagnostic Query :=
  s.fail (.unconverted n.kind (before + 1) before) n.span []

/-- The query of a node, from the queries of its children. -/
def readQuery (s : Setting) (removed : List NodeKind) (n : Node) (before : Nat)
    (inner : List (Spanned Query)) : Except Diagnostic Query :=
  if n.kind ∈ removed then n.unconverted s before
  else
    match n.kind, inner with
    | .and, [] | .or, [] => s.fail (.emptyScope n.kind) n.span []
    | .and, qs => .ok (.junction .and (qs.map (·.value)))
    | .or, qs => .ok (.junction .or (qs.map (·.value)))
    | .not, [q] => .ok (.not q.value)
    | .not, qs => s.fail (.notOfMany qs.length) n.span (queryLabels qs)
    | k, _ =>
      match Leaf.builder? k with
      | some build => build s n
      | none => n.unconverted s before

mutual

/-- The reading of a node with `before` queries in front of it. -/
def reading (s : Setting) (removed : List NodeKind) : Node → Nat → Except Diagnostic Reading
  | ⟨kind, span, name, values, flags, type, terms, children⟩, before => do
    let node : Node := ⟨kind, span, name, values, flags, type, terms, children⟩
    node.rejectNested s
    let inner ← readingAll s removed children before
    if kind = .orderBy then return { orders := ← s.readTerms span terms }
    else
      let q ← node.readQuery s removed (before + queryCountAll children) inner.queries
      return ⟨[⟨q, span⟩], inner.orders⟩

def readingAll (s : Setting) (removed : List NodeKind) :
    List Node → Nat → Except Diagnostic Reading
  | [], _ => .ok {}
  | n :: ns, before => do
    let r ← reading s removed n before
    let r' ← readingAll s removed ns (before + queryCount n)
    return r.append r'

end

theorem readingAll_cons_eq_ok {s : Setting} {removed : List NodeKind} {n : Node}
    {ns : List Node} {before : Nat} {r : Reading} :
    readingAll s removed (n :: ns) before = .ok r ↔
      ∃ r₁ r₂, reading s removed n before = .ok r₁ ∧
        readingAll s removed ns (before + n.queryCount) = .ok r₂ ∧ r = r₁.append r₂ := by
  rw [readingAll, bind_eq_ok]
  constructor
  · rintro ⟨r₁, h₁, h⟩
    obtain ⟨r₂, h₂, h⟩ := bind_eq_ok.1 h
    cases h
    exact ⟨r₁, r₂, h₁, h₂, rfl⟩
  · rintro ⟨r₁, r₂, h₁, h₂, rfl⟩
    exact ⟨r₁, h₁, bind_eq_ok.2 ⟨r₂, h₂, rfl⟩⟩

theorem rejectNested_eq_ok {s : Setting} {n : Node} :
    n.rejectNested s = .ok () ↔ n.kind.isScope ∨ n.children = [] := by
  unfold rejectNested
  cases n.children with
  | nil => simp
  | cons c cs => by_cases h : n.kind.isScope <;> simp [h]

/-! ## By kind of node -/

section
variable {s : Setting} {n : Node}

theorem queryCount_eq (n : Node) :
    n.queryCount = queryCountAll n.children + if n.kind = .orderBy then 0 else 1 := by
  cases n
  rw [queryCount]

theorem scopeCount_eq (n : Node) :
    n.scopeCount = scopeCountAll n.children + if n.kind.isScope then 1 else 0 := by
  cases n
  rw [scopeCount]

theorem reading_of_nested {d : Diagnostic} (hn : n.rejectNested s = .error d)
    (removed : List NodeKind) (before : Nat) : n.reading s removed before = .error d := by
  cases n
  rw [reading, hn]
  rfl

theorem reading_of_scope (hk : n.kind.isScope) (removed : List NodeKind) (before : Nat) :
    n.reading s removed before =
      readingAll s removed n.children before >>= fun inner =>
        n.readQuery s removed (before + queryCountAll n.children) inner.queries >>= fun q =>
          pure ⟨[⟨q, n.span⟩], inner.orders⟩ := by
  have plain : n.rejectNested s = .ok () := rejectNested_eq_ok.2 (.inl hk)
  have ho : n.kind ≠ .orderBy := NodeKind.ne_orderBy_of_isScope hk
  cases n
  rw [reading, plain]
  simp only [if_neg ho]
  rfl

theorem reading_of_leaf (hk : ¬ n.kind.isScope) (ho : n.kind ≠ .orderBy) (hc : n.children = [])
    (removed : List NodeKind) (before : Nat) :
    n.reading s removed before =
      n.readQuery s removed before [] >>= fun q => pure ⟨[⟨q, n.span⟩], []⟩ := by
  have plain : n.rejectNested s = .ok () := rejectNested_eq_ok.2 (.inr hc)
  cases n
  subst hc
  rw [reading, plain]
  simp only [if_neg ho, readingAll, queryCountAll]
  rfl

theorem reading_of_orderBy (ho : n.kind = .orderBy) (hc : n.children = [])
    (removed : List NodeKind) (before : Nat) :
    n.reading s removed before =
      s.readTerms n.span n.orderTerms >>= fun os => pure { orders := os } := by
  have plain : n.rejectNested s = .ok () := rejectNested_eq_ok.2 (.inr hc)
  cases n
  subst hc
  rw [reading, plain]
  simp only [if_pos ho, readingAll]
  rfl

end

/-- What the handler of a kind makes of a node is what the node says. -/
theorem readQuery_eq (s : Setting) (removed : List NodeKind) (n : Node) (before : Nat)
    (inner : List (Spanned Query)) :
    n.readQuery s removed before inner =
      match (Handlers.without removed).get? n.kind with
      | some h => h.make s n inner
      | none => n.unconverted s before := by
  unfold readQuery
  rw [Handlers.get?_without]
  by_cases hr : n.kind ∈ removed
  · simp only [if_pos hr]
  · simp only [if_neg hr]
    cases hk : n.kind
    case and | or =>
      cases inner <;> simp [Handler.default?, Handler.make, reduceJunction, hk]
    case not =>
      match inner with
      | [] | [_] | _ :: _ :: _ => rfl
    all_goals rfl

/-- A leaf takes nothing from the scope around it. -/
theorem readQuery_of_leaf {s : Setting} {n : Node} (hk : ¬ n.kind.isScope)
    (removed : List NodeKind) (before : Nat) (inner : List (Spanned Query)) :
    n.readQuery s removed before inner = n.readQuery s removed before [] := by
  unfold readQuery
  cases h : n.kind <;> first | rfl | simp [h, NodeKind.isScope] at hk

/-! ## Successful readings -/

section
variable {s : Setting} {removed : List NodeKind} {n : Node} {before : Nat}

/-- What a successful reading found in a node. -/
inductive Says (s : Setting) (removed : List NodeKind) (n : Node) (before : Nat) :
    Reading → Prop
  | scope {inner : Reading} {q : Query} (kind : n.kind.isScope)
      (children : readingAll s removed n.children before = .ok inner)
      (query : n.readQuery s removed (before + queryCountAll n.children) inner.queries = .ok q) :
      Says s removed n before ⟨[⟨q, n.span⟩], inner.orders⟩
  | leaf {q : Query} (kind : ¬ n.kind.isScope) (order : n.kind ≠ .orderBy)
      (children : n.children = []) (query : n.readQuery s removed before [] = .ok q) :
      Says s removed n before ⟨[⟨q, n.span⟩], []⟩
  | clause {os : List Order} (kind : n.kind = .orderBy) (children : n.children = [])
      (terms : s.readTerms n.span n.orderTerms = .ok os) :
      Says s removed n before { orders := os }

theorem says_of_reading {r : Reading} (h : n.reading s removed before = .ok r) :
    Says s removed n before r := by
  cases plain : n.rejectNested s with
  | error d => simp [reading_of_nested plain] at h
  | ok =>
    by_cases hk : n.kind.isScope
    · rw [reading_of_scope hk, bind_eq_ok] at h
      obtain ⟨inner, hi, h⟩ := h
      obtain ⟨q, hq, h⟩ := bind_eq_ok.1 h
      cases h
      exact .scope hk hi hq
    · have hc := (rejectNested_eq_ok.1 plain).resolve_left hk
      by_cases ho : n.kind = .orderBy
      · rw [reading_of_orderBy ho hc, bind_eq_ok] at h
        obtain ⟨os, hos, h⟩ := h
        cases h
        exact .clause ho hc hos
      · rw [reading_of_leaf hk ho hc, bind_eq_ok] at h
        obtain ⟨q, hq, h⟩ := h
        cases h
        exact .leaf hk ho hc hq

theorem reading_of_says {r : Reading} (h : Says s removed n before r) :
    n.reading s removed before = .ok r := by
  cases h with
  | scope kind children query =>
    rw [reading_of_scope kind, children]
    exact bind_eq_ok.2 ⟨_, rfl, bind_eq_ok.2 ⟨_, query, rfl⟩⟩
  | leaf kind order children query =>
    rw [reading_of_leaf kind order children, query]
    rfl
  | clause kind children terms =>
    rw [reading_of_orderBy kind children, terms]
    rfl

/-- The query that a node forms from the queries inside it. -/
inductive Forms (s : Setting) (n : Node) (inner : List (Spanned Query)) : Query → Prop
  | and (kind : n.kind = .and) (inside : inner ≠ []) :
      Forms s n inner (.junction .and (inner.map (·.value)))
  | or (kind : n.kind = .or) (inside : inner ≠ []) :
      Forms s n inner (.junction .or (inner.map (·.value)))
  | not {q : Spanned Query} (kind : n.kind = .not) (inside : inner = [q]) :
      Forms s n inner (.not q.value)
  | predicate {q : Query} (accepts : Leaf.Accepts s n n.kind q) : Forms s n inner q

theorem readQuery_eq_ok {inner : List (Spanned Query)} {q : Query} :
    n.readQuery s removed before inner = .ok q ↔ n.kind ∉ removed ∧ Forms s n inner q := by
  rw [readQuery_eq, Handlers.get?_without]
  by_cases hr : n.kind ∈ removed
  · simp [hr, unconverted]
  simp only [hr, not_false_eq_true, true_and]
  constructor
  · intro h
    cases hk : n.kind <;> simp only [hk] at h
    case and =>
      obtain ⟨hi, rfl⟩ := reduceJunction_eq_ok.1 h
      exact .and hk hi
    case or =>
      obtain ⟨hi, rfl⟩ := reduceJunction_eq_ok.1 h
      exact .or hk hi
    case not =>
      obtain ⟨q', hi, rfl⟩ := reduceNot_eq_ok.1 h
      exact .not hk hi
    case orderBy | unknown => simp [Handler.default?, Leaf.builder?, unconverted] at h
    all_goals exact .predicate (hk ▸ Leaf.accepts_of_builder rfl h)
  · rintro (⟨hk, hi⟩ | ⟨hk, hi⟩ | ⟨hk, hi⟩ | ha)
    · rw [hk]
      exact reduceJunction_eq_ok.2 ⟨hi, rfl⟩
    · rw [hk]
      exact reduceJunction_eq_ok.2 ⟨hi, rfl⟩
    · rw [hk]
      exact reduceNot_eq_ok.2 ⟨_, hi, rfl⟩
    · obtain ⟨build, hb, h⟩ := Leaf.exists_builder_of_accepts ha
      cases hk : n.kind <;> rw [hk] at hb <;> cases hb <;> exact h

theorem readQuery_withSource {inner : List (Spanned Query)} {q : Query}
    (h : n.readQuery s removed before inner = .ok q) (source : Option Source) (before' : Nat) :
    n.readQuery { s with source } removed before' inner = .ok q := by
  obtain ⟨hr, hq⟩ := readQuery_eq_ok.1 h
  refine readQuery_eq_ok.2 ⟨hr, ?_⟩
  cases hq with
  | and kind inside => exact .and kind inside
  | or kind inside => exact .or kind inside
  | not kind inside => exact .not kind inside
  | predicate accepts => exact .predicate (accepts.withSource source)

/-- Each query that is made and each ordering clause that is read in one setting is made
and read the same in the other. -/
structure Transfers (s : Setting) (removed : List NodeKind) (s' : Setting)
    (removed' : List NodeKind) : Prop where
  query : ∀ {n : Node} {before : Nat} {inner : List (Spanned Query)} {q : Query},
    n.readQuery s removed before inner = .ok q →
      ∀ before', n.readQuery s' removed' before' inner = .ok q
  terms : ∀ {span : Span} {ts : List OrderTerm} {os : List Order},
    s.readTerms span ts = .ok os → s'.readTerms span ts = .ok os

section
variable {s' : Setting} {removed' : List NodeKind}

mutual

theorem reading_transfer (t : Transfers s removed s' removed') (n : Node) {before : Nat}
    {r : Reading} (h : n.reading s removed before = .ok r) (before' : Nat) :
    n.reading s' removed' before' = .ok r := by
  match n with
  | ⟨kind, span, name, values, flags, type, terms, children⟩ =>
    refine reading_of_says ?_
    cases says_of_reading h with
    | scope kind inner query =>
      exact .scope kind (readingAll_transfer t children inner before') (t.query query _)
    | leaf kind order children query => exact .leaf kind order children (t.query query _)
    | clause kind children terms => exact .clause kind children (t.terms terms)

theorem readingAll_transfer (t : Transfers s removed s' removed') (ns : List Node)
    {before : Nat} {r : Reading} (h : readingAll s removed ns before = .ok r) (before' : Nat) :
    readingAll s' removed' ns before' = .ok r := by
  match ns with
  | [] => exact h
  | n :: ns =>
    obtain ⟨r₁, r₂, h₁, h₂, rfl⟩ := readingAll_cons_eq_ok.1 h
    refine readingAll_cons_eq_ok.2 ⟨r₁, r₂, ?_, ?_, rfl⟩
    · exact reading_transfer t n h₁ before'
    · exact readingAll_transfer t ns h₂ _

end

end

theorem transfers_withSource (s : Setting) (removed : List NodeKind) (source : Option Source) :
    Transfers s removed { s with source } removed :=
  ⟨fun made before' => readQuery_withSource made source before',
    fun told => Setting.readTerms_withSource told source⟩

/-- Neither the source nor the number of queries in front decides what a node says. -/
theorem reading_withSource (n : Node) {before : Nat} {r : Reading}
    (h : n.reading s removed before = .ok r) (source : Option Source) (before' : Nat) :
    n.reading { s with source } removed before' = .ok r :=
  reading_transfer (transfers_withSource s removed source) n h before'

theorem readingAll_withSource (ns : List Node) {before : Nat} {r : Reading}
    (h : readingAll s removed ns before = .ok r) (source : Option Source) (before' : Nat) :
    readingAll { s with source } removed ns before' = .ok r :=
  readingAll_transfer (transfers_withSource s removed source) ns h before'

/-! ## What holds of every reading -/

section
variable {P : Query → Prop} {O : Order → Prop}

mutual

/-- What every node passes on from the queries inside it to its own holds of all queries
that a reading finds, and what holds of every term of all its ordering terms. -/
theorem forall_of_reading
    (forms : ∀ n inner q, (∀ q' ∈ inner, P q'.value) → Forms s n inner q → P q)
    (terms : ∀ span t o, s.readTerm span t = .ok o → O o)
    (n : Node) {before : Nat} {r : Reading} (h : n.reading s removed before = .ok r) :
    (∀ q ∈ r.queries, P q.value) ∧ ∀ o ∈ r.orders, O o := by
  match n with
  | ⟨kind, span, name, values, flags, type, ts, children⟩ =>
    cases says_of_reading h with
    | scope kind inner query =>
      obtain ⟨hq, ho⟩ := forall_of_readingAll forms terms children inner
      refine ⟨?_, ho⟩
      simpa using forms _ _ _ hq (readQuery_eq_ok.1 query).2
    | leaf kind order children query =>
      refine ⟨?_, by simp⟩
      simpa using forms _ _ _ (by simp) (readQuery_eq_ok.1 query).2
    | clause kind children ht =>
      refine ⟨by simp, fun o ho => ?_⟩
      obtain ⟨t, -, hto⟩ := Setting.exists_of_mem_readTerms ht ho
      exact terms _ t o hto

theorem forall_of_readingAll
    (forms : ∀ n inner q, (∀ q' ∈ inner, P q'.value) → Forms s n inner q → P q)
    (terms : ∀ span t o, s.readTerm span t = .ok o → O o)
    (ns : List Node) {before : Nat} {r : Reading} (h : readingAll s removed ns before = .ok r) :
    (∀ q ∈ r.queries, P q.value) ∧ ∀ o ∈ r.orders, O o := by
  match ns with
  | [] =>
    cases h
    simp
  | n :: ns =>
    obtain ⟨r₁, r₂, h₁, h₂, rfl⟩ := readingAll_cons_eq_ok.1 h
    obtain ⟨hq₁, ho₁⟩ := forall_of_reading forms terms n h₁
    obtain ⟨hq₂, ho₂⟩ := forall_of_readingAll forms terms ns h₂
    constructor
    · intro q hq
      exact (List.mem_append.1 hq).elim (hq₁ q) (hq₂ q)
    · intro o ho
      exact (List.mem_append.1 ho).elim (ho₁ o) (ho₂ o)

end

end

end

end Node

end FilterQuery
