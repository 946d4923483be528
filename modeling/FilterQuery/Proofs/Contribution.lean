import FilterQuery.Proofs.Address
import FilterQuery.Proofs.Reading

/-!
# What each node contributes

The reading of a tree, taken apart by node: the query that a node makes and the ordering
terms that it adds. A tree that can be read is the sum of these over its entries, whatever
else surrounds a node.
-/
namespace FilterQuery

theorem flatMap_filter {α β : Type} {f : α → List β} {P : α → Bool} {l : List α}
    (h : ∀ x ∈ l, P x = false → f x = []) : (l.filter P).flatMap f = l.flatMap f := by
  induction l with
  | nil => rfl
  | cons x l ih =>
    have rest := ih fun y hy => h y (List.mem_cons_of_mem x hy)
    cases hx : P x with
    | true => rw [List.filter_cons_of_pos hx, List.flatMap_cons, List.flatMap_cons, rest]
    | false =>
      rw [List.filter_cons_of_neg (by simp [hx]), List.flatMap_cons, rest,
        h x List.mem_cons_self hx, List.nil_append]

namespace Node

/-- Nothing in the node fails. -/
def Readable (s : Setting) (n : Node) : Prop := ∃ r, n.reading s [] 0 = .ok r

/-- The query of a node, if it makes one. -/
def made (s : Setting) (n : Node) : List (Spanned Query) :=
  ((n.reading s [] 0).toOption.getD {}).queries

/-- The terms of a node, if it is an ordering clause. -/
def told (s : Setting) (n : Node) : List Order :=
  if n.kind = .orderBy then ((n.reading s [] 0).toOption.getD {}).orders else []

section
variable {s : Setting} {n : Node} {before : Nat} {r : Reading}

theorem reading_zero (h : n.reading s [] before = .ok r) : n.reading s [] 0 = .ok r :=
  reading_withSource n h s.source 0

theorem made_of_reading (h : n.reading s [] before = .ok r) : n.made s = r.queries := by
  rw [made, reading_zero h]
  rfl

theorem told_of_reading (h : n.reading s [] before = .ok r) (ho : n.kind = .orderBy) :
    n.told s = r.orders := by
  rw [told, if_pos ho, reading_zero h]
  rfl

theorem told_of_ne (ho : n.kind ≠ .orderBy) : n.told s = [] := if_neg ho

theorem made_of_orderBy (ho : n.kind = .orderBy) : n.made s = [] := by
  unfold made
  cases h : n.reading s [] 0 with
  | error d => rfl
  | ok r =>
    cases says_of_reading h with
    | scope kind => exact absurd ho (NodeKind.ne_orderBy_of_isScope kind)
    | leaf _ order => exact absurd ho order
    | clause => rfl

theorem made_of_readingAll {ns : List Node} (h : readingAll s [] ns before = .ok r) :
    ns.flatMap (made s) = r.queries := by
  induction ns generalizing before r with
  | nil =>
    cases h
    rfl
  | cons n ns ih =>
    obtain ⟨r₁, r₂, h₁, h₂, rfl⟩ := readingAll_cons_eq_ok.1 h
    rw [List.flatMap_cons, made_of_reading h₁, ih h₂]
    rfl

/-- What a node makes depends only on the queries directly inside it. -/
theorem readQuery_of_readable (hr : n.Readable s) (ho : n.kind ≠ .orderBy) (before : Nat)
    {inner : List (Spanned Query)}
    (hi : n.kind.isScope → inner = n.children.flatMap (made s)) :
    ∃ q, n.readQuery s [] before inner = .ok q ∧ n.made s = [⟨q, n.span⟩] := by
  obtain ⟨r, h⟩ := hr
  have hm := made_of_reading h
  cases says_of_reading h with
  | @scope inside q kind children query =>
    refine ⟨q, ?_, hm⟩
    rw [hi kind, made_of_readingAll children]
    exact readQuery_withSource query s.source before
  | @leaf q kind _ _ query =>
    refine ⟨q, ?_, hm⟩
    rw [readQuery_of_leaf kind]
    exact readQuery_withSource query s.source before
  | clause kind => exact absurd kind ho

theorem readTerms_of_readable (hr : n.Readable s) (ho : n.kind = .orderBy) :
    s.readTerms n.span n.orderTerms = .ok (n.told s) := by
  obtain ⟨r, h⟩ := hr
  rw [told_of_reading h ho]
  cases says_of_reading h with
  | scope kind => exact absurd ho (NodeKind.ne_orderBy_of_isScope kind)
  | leaf _ order => exact absurd ho order
  | clause _ _ terms => exact terms

theorem rejectNested_of_readable (hr : n.Readable s) : n.rejectNested s = .ok () := by
  obtain ⟨r, h⟩ := hr
  cases hn : n.rejectNested s with
  | ok => rfl
  | error d => simp [reading_of_nested hn] at h

end

/-! ## Along the entries -/

section
variable {s : Setting}

mutual

theorem told_entries (n : Node) (a : Address) {before : Nat} {r : Reading}
    (h : n.reading s [] before = .ok r) :
    (∀ e ∈ n.entries a, e.2.Readable s) ∧
      (n.entries a).flatMap (fun e => e.2.told s) = r.orders := by
  match n with
  | ⟨kind, span, name, values, flags, type, terms, children⟩ =>
    have own : Readable s ⟨kind, span, name, values, flags, type, terms, children⟩ :=
      ⟨r, reading_zero h⟩
    rw [entries]
    cases says_of_reading h with
    | scope hk inner _ =>
      obtain ⟨readable, orders⟩ := told_entriesAll children a 0 inner
      constructor
      · intro e he
        rcases List.mem_append.1 he with he | he
        · exact readable e he
        · cases List.mem_singleton.1 he
          exact own
      · simp [orders, told_of_ne (NodeKind.ne_orderBy_of_isScope hk)]
    | leaf _ order hc _ =>
      obtain rfl : children = [] := hc
      refine ⟨?_, by simp [entriesAll, told_of_ne order]⟩
      simpa [entriesAll] using own
    | clause hk hc _ =>
      obtain rfl : children = [] := hc
      refine ⟨?_, by simp [entriesAll, told_of_reading h hk]⟩
      simpa [entriesAll] using own

theorem told_entriesAll (ns : List Node) (a : Address) (i : Nat) {before : Nat} {r : Reading}
    (h : readingAll s [] ns before = .ok r) :
    (∀ e ∈ entriesAll a i ns, e.2.Readable s) ∧
      (entriesAll a i ns).flatMap (fun e => e.2.told s) = r.orders := by
  match ns with
  | [] =>
    cases h
    simp [entriesAll]
  | n :: ns =>
    obtain ⟨r₁, r₂, h₁, h₂, rfl⟩ := readingAll_cons_eq_ok.1 h
    obtain ⟨readable, orders⟩ := told_entries n (i :: a) h₁
    obtain ⟨readable', orders'⟩ := told_entriesAll ns a (i + 1) h₂
    rw [entriesAll]
    constructor
    · intro e he
      exact (List.mem_append.1 he).elim (readable e) (readable' e)
    · rw [List.flatMap_append, orders, orders']
      rfl

end

mutual

theorem countP_entries (n : Node) (a : Address) :
    (n.entries a).countP (·.2.kind.makesQuery) = n.queryCount := by
  match n with
  | ⟨kind, span, name, values, flags, type, terms, children⟩ =>
    rw [entries, queryCount, List.countP_append, countP_entriesAll children a 0]
    by_cases hk : kind = .orderBy <;> simp [hk, NodeKind.makesQuery]

theorem countP_entriesAll (ns : List Node) (a : Address) (i : Nat) :
    (entriesAll a i ns).countP (·.2.kind.makesQuery) = queryCountAll ns := by
  match ns with
  | [] => rfl
  | n :: ns =>
    rw [entriesAll, queryCountAll, List.countP_append, countP_entries n (i :: a),
      countP_entriesAll ns a (i + 1)]

end

end

end Node

/-! ## By address -/

namespace ParseTree

variable (t : ParseTree) (s : Setting)

/-- The query of the node at an address. -/
def made (a : Address) : List (Spanned Query) := (t.node? a).elim [] (Node.made s)

/-- The ordering terms of the node at an address. -/
def told (a : Address) : List Order := (t.node? a).elim [] (Node.told s)

variable {t s}

theorem made_of_not_makesQuery {a : Address} (h : t.makesQuery a = false) : t.made s a = [] := by
  unfold made makesQuery at *
  cases hn : t.node? a with
  | none => rfl
  | some n =>
    refine Node.made_of_orderBy ?_
    simpa [hn, NodeKind.makesQuery] using h

theorem told_of_not_isClause {a : Address} (h : t.isClause a = false) : t.told s a = [] := by
  unfold told isClause at *
  cases hn : t.node? a with
  | none => rfl
  | some n =>
    refine Node.told_of_ne ?_
    simpa [hn] using h

/-- The queries inside a scope are those of its children in source order. -/
theorem made_within (a : Address) :
    ((t.within a).filter t.makesQuery).flatMap (t.made s) =
      (t.nodesAt a).flatMap (Node.made s) := by
  rw [flatMap_filter fun b _ => made_of_not_makesQuery]
  have lookups : (t.within a).flatMap (t.made s) =
      ((t.within a).map t.node?).flatMap (·.elim [] (Node.made s)) := by
    rw [List.flatMap_map]
    rfl
  rw [lookups, map_node?_within, List.flatMap_map]
  rfl

theorem readable_of_mem {r : Reading} (h : Node.readingAll s [] t.nodes 0 = .ok r)
    {a : Address} {n : Node} (hn : (a, n) ∈ t.entries) : n.Readable s :=
  (Node.told_entriesAll t.nodes [] 0 h).1 (a, n) hn

theorem told_addresses {r : Reading} (h : Node.readingAll s [] t.nodes 0 = .ok r) :
    (t.addresses.filter t.isClause).flatMap (t.told s) = r.orders := by
  rw [flatMap_filter fun b _ => told_of_not_isClause,
    ← (Node.told_entriesAll t.nodes [] 0 h).2, addresses, List.flatMap_map]
  refine List.flatMap_congr fun e he => ?_
  simp [told, node?_of_mem he]

theorem countP_addresses :
    t.addresses.countP t.makesQuery = Node.queryCountAll t.nodes := by
  rw [← Node.countP_entriesAll t.nodes [] 0, addresses, List.countP_map]
  refine List.countP_congr fun e he => ?_
  simp [makesQuery, node?_of_mem he]

end ParseTree

end FilterQuery
