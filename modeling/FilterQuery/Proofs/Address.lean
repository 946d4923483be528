import FilterQuery.ParseTree
import Mathlib.Data.List.Infix
import Mathlib.Data.List.Nodup

/-!
# Addresses

An address leads from a node up to the top of its tree: its own position among its
siblings comes first. The entries of a tree list every node once with its address, in the
order in which a walk leaves them.
-/
namespace FilterQuery

/-- The positions of a node and of those around it, innermost first. The empty address
stands for the place of the top-level nodes. -/
abbrev Address := List Nat

namespace Node

mutual

/-- A node at the address and all beneath it, a node after its children. -/
def entries (a : Address) : Node → List (Address × Node)
  | ⟨kind, span, name, values, flags, type, terms, children⟩ =>
    entriesAll a 0 children ++ [(a, ⟨kind, span, name, values, flags, type, terms, children⟩)]

def entriesAll (a : Address) (i : Nat) : List Node → List (Address × Node)
  | [] => []
  | n :: ns => entries (i :: a) n ++ entriesAll a (i + 1) ns

end

end Node

namespace ParseTree

variable (t : ParseTree)

/-- The nodes directly inside the node at an address. -/
def nodesAt : Address → List Node
  | [] => t.nodes
  | i :: a => ((nodesAt a)[i]?.map (·.children)).getD []

def node? : Address → Option Node
  | [] => none
  | i :: a => (t.nodesAt a)[i]?

/-- Every node with its address, in document order. -/
def entries : List (Address × Node) := Node.entriesAll [] 0 t.nodes

def addresses : List Address := t.entries.map (·.1)

/-- The addresses directly inside the node at an address, in source order. -/
def within (a : Address) : List Address := (List.range (t.nodesAt a).length).map (· :: a)

def isScope (a : Address) : Bool := (t.node? a).any (·.kind.isScope)

def makesQuery (a : Address) : Bool := (t.node? a).any (·.kind.makesQuery)

def isClause (a : Address) : Bool := (t.node? a).any (·.kind == .orderBy)

end ParseTree

/-! ## Looking up -/

section
variable {t : ParseTree}

theorem ParseTree.nodesAt_of_node? {a : Address} {n : Node} (h : t.node? a = some n) :
    t.nodesAt a = n.children := by
  cases a with
  | nil => cases h
  | cons i a =>
    rw [node?] at h
    simp [nodesAt, h]

mutual

theorem Node.node?_of_mem_entries (n : Node) {a b : Address} {m : Node}
    (h : t.node? a = some n) (hm : (b, m) ∈ n.entries a) : t.node? b = some m := by
  match n with
  | ⟨kind, span, name, values, flags, type, terms, children⟩ =>
    rw [entries, List.mem_append] at hm
    rcases hm with hm | hm
    · exact node?_of_mem_entriesAll children
        (by rw [ParseTree.nodesAt_of_node? h, List.drop_zero]) hm
    · cases List.mem_singleton.1 hm
      exact h

theorem Node.node?_of_mem_entriesAll (ns : List Node) {a b : Address} {i : Nat} {m : Node}
    (h : (t.nodesAt a).drop i = ns) (hm : (b, m) ∈ entriesAll a i ns) :
    t.node? b = some m := by
  match ns with
  | [] => cases hm
  | n :: ns =>
    have first : t.node? (i :: a) = some n := by
      have := congrArg List.head? h
      simpa [ParseTree.node?, List.head?_drop] using this
    have rest : (t.nodesAt a).drop (i + 1) = ns := by
      rw [← List.tail_drop, h]
      rfl
    rw [entriesAll, List.mem_append] at hm
    rcases hm with hm | hm
    · exact node?_of_mem_entries n first hm
    · exact node?_of_mem_entriesAll ns rest hm

end

theorem ParseTree.node?_of_mem {a : Address} {n : Node} (h : (a, n) ∈ t.entries) :
    t.node? a = some n := Node.node?_of_mem_entriesAll t.nodes rfl h

theorem ParseTree.exists_of_mem_addresses {a : Address} (h : a ∈ t.addresses) :
    ∃ n, (a, n) ∈ t.entries ∧ t.node? a = some n := by
  obtain ⟨⟨a', n⟩, hn, rfl⟩ := List.mem_map.1 h
  exact ⟨n, hn, node?_of_mem hn⟩

theorem ParseTree.ne_nil_of_mem_addresses {a : Address} (h : a ∈ t.addresses) : a ≠ [] := by
  rintro rfl
  obtain ⟨n, -, hn⟩ := exists_of_mem_addresses h
  cases hn

theorem ParseTree.map_node?_within (a : Address) :
    (t.within a).map t.node? = (t.nodesAt a).map some := by
  refine List.ext_getElem (by simp [within]) fun i h h' => ?_
  have hi : i < (t.nodesAt a).length := by simpa using h'
  simp [within, node?, List.getElem?_eq_getElem hi]

end

/-! ## Each node once -/

namespace Node

mutual

theorem suffix_of_mem_entries (n : Node) {a b : Address} {m : Node}
    (h : (b, m) ∈ n.entries a) : a <:+ b := by
  match n with
  | ⟨kind, span, name, values, flags, type, terms, children⟩ =>
    rw [entries, List.mem_append] at h
    rcases h with h | h
    · obtain ⟨j, -, hj⟩ := suffix_of_mem_entriesAll children h
      exact (List.suffix_cons j a).trans hj
    · cases List.mem_singleton.1 h
      exact List.suffix_refl a

theorem suffix_of_mem_entriesAll (ns : List Node) {a b : Address} {i : Nat} {m : Node}
    (h : (b, m) ∈ entriesAll a i ns) : ∃ j ≥ i, (j :: a) <:+ b := by
  match ns with
  | [] => cases h
  | n :: ns =>
    rw [entriesAll, List.mem_append] at h
    rcases h with h | h
    · exact ⟨i, Nat.le_refl i, suffix_of_mem_entries n h⟩
    · obtain ⟨j, hj, hs⟩ := suffix_of_mem_entriesAll ns h
      exact ⟨j, by omega, hs⟩

end

/-- The way up from a node passes through one child of a node at most. -/
theorem eq_of_suffix {i j : Nat} {a b : Address} (hi : (i :: a) <:+ b) (hj : (j :: a) <:+ b) :
    i = j := by
  have same := (List.suffix_of_suffix_length_le hi hj (by simp)).eq_of_length (by simp)
  exact (List.cons.inj same).1

mutual

theorem nodup_entries (n : Node) (a : Address) : ((n.entries a).map (·.1)).Nodup := by
  match n with
  | ⟨kind, span, name, values, flags, type, terms, children⟩ =>
    rw [entries, List.map_append, List.nodup_append]
    refine ⟨nodup_entriesAll children a 0, List.nodup_singleton _, ?_⟩
    intro b hb c hc
    obtain ⟨⟨b', m⟩, hm, rfl⟩ := List.mem_map.1 hb
    obtain rfl := List.mem_singleton.1 hc
    obtain ⟨j, -, hj⟩ := suffix_of_mem_entriesAll children hm
    rintro rfl
    exact absurd hj.length_le (by simp)

theorem nodup_entriesAll (ns : List Node) (a : Address) (i : Nat) :
    ((entriesAll a i ns).map (·.1)).Nodup := by
  match ns with
  | [] => exact List.nodup_nil
  | n :: ns =>
    rw [entriesAll, List.map_append, List.nodup_append]
    refine ⟨nodup_entries n (i :: a), nodup_entriesAll ns a (i + 1), ?_⟩
    intro b hb c hc
    obtain ⟨⟨b', m⟩, hm, rfl⟩ := List.mem_map.1 hb
    obtain ⟨⟨c', m'⟩, hm', rfl⟩ := List.mem_map.1 hc
    obtain ⟨j, hj, hs⟩ := suffix_of_mem_entriesAll ns hm'
    rintro rfl
    have hij := eq_of_suffix (suffix_of_mem_entries n hm) hs
    omega

end

end Node

theorem ParseTree.nodup_addresses (t : ParseTree) : t.addresses.Nodup :=
  Node.nodup_entriesAll t.nodes [] 0

end FilterQuery
