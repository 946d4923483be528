import FilterQuery.Proofs.MissingHandler
import FilterQuery.Proofs.WellTyped

/-!
# Surplus tokens

Every kind of node takes tokens in some of the five slots that a node has, and a token in
any other slot is surplus. Which slots are looked at is another question. A predicate
looks at its values and flags whether it takes any or not, so a surplus value or flag
fails the translation. No node looks at any other slot that its kind does not take: what
stands there changes nothing, neither a query nor a failure.
-/
namespace FilterQuery

/-- The places of a node for tokens. -/
inductive Slot
  | attributeName
  | values
  | flags
  | objectType
  | orderTerms
  deriving DecidableEq, Repr

namespace NodeKind

/-- The slots that nodes of the kind have a use for. -/
def takes : NodeKind → List Slot
  | and | or | not | unknown => []
  | has => [.attributeName]
  | all | none => [.objectType]
  | orderBy => [.orderTerms]
  | betweenVerbose => [.attributeName, .values, .flags]
  | _ => [.attributeName, .values]

/-- The slots that are looked at: those that the kind takes and, of a predicate, its
values and flags in any case. -/
def examines (k : NodeKind) : List Slot :=
  if (Leaf.builder? k).isSome then k.takes ++ [.values, .flags] else k.takes

theorem takes_subset_examines (k : NodeKind) : k.takes ⊆ k.examines := by
  unfold examines
  split
  · exact List.subset_append_left _ _
  · exact List.Subset.refl _

end NodeKind

namespace Node

/-- Something stands in the slot. -/
def Populates (n : Node) : Slot → Prop
  | .attributeName => n.attributeName ≠ none
  | .values => n.values ≠ []
  | .flags => n.flags ≠ []
  | .objectType => n.objectType ≠ none
  | .orderTerms => n.orderTerms ≠ []

/-- Tokens stand in a slot that the kind of the node has no use for. -/
def Surplus (n : Node) (slot : Slot) : Prop := n.Populates slot ∧ slot ∉ n.kind.takes

mutual

/-- The node and all beneath it with some slots of each kind kept and the others emptied. -/
def keep (slots : NodeKind → List Slot) : Node → Node
  | ⟨kind, span, name, values, flags, type, terms, children⟩ =>
    ⟨kind, span,
      if .attributeName ∈ slots kind then name else none,
      if .values ∈ slots kind then values else [],
      if .flags ∈ slots kind then flags else [],
      if .objectType ∈ slots kind then type else none,
      if .orderTerms ∈ slots kind then terms else [],
      keepAll slots children⟩

def keepAll (slots : NodeKind → List Slot) : List Node → List Node
  | [] => []
  | n :: ns => keep slots n :: keepAll slots ns

end

section
variable {slots slots' : NodeKind → List Slot} {n : Node}

@[simp] theorem kind_keep : (n.keep slots).kind = n.kind := by
  cases n
  rw [keep]

@[simp] theorem span_keep : (n.keep slots).span = n.span := by
  cases n
  rw [keep]

@[simp] theorem children_keep : (n.keep slots).children = keepAll slots n.children := by
  cases n
  rw [keep]

theorem orderTerms_keep (h : .orderTerms ∈ slots n.kind) :
    (n.keep slots).orderTerms = n.orderTerms := by
  cases n
  rw [keep]
  exact if_pos h

mutual

@[simp] theorem queryCount_keep : ∀ n : Node, (n.keep slots).queryCount = n.queryCount
  | ⟨kind, span, name, values, flags, type, terms, children⟩ => by
    rw [queryCount_eq, queryCount_eq, kind_keep, children_keep, queryCountAll_keepAll children]

@[simp] theorem queryCountAll_keepAll :
    ∀ ns : List Node, queryCountAll (keepAll slots ns) = queryCountAll ns
  | [] => by rw [keepAll]
  | n :: ns => by
    rw [keepAll, queryCountAll, queryCountAll, queryCount_keep n, queryCountAll_keepAll ns]

end

mutual

/-- Only slots with something in them matter to what is kept of a node. -/
theorem keep_congr : ∀ (n : Node) (a : Address),
    (∀ e ∈ n.entries a, ∀ slot, e.2.Populates slot →
      (slot ∈ slots e.2.kind ↔ slot ∈ slots' e.2.kind)) → n.keep slots = n.keep slots'
  | ⟨kind, span, name, values, flags, type, terms, children⟩, a => by
    intro same
    rw [entries, List.forall_mem_append, List.forall_mem_singleton] at same
    obtain ⟨inside, own⟩ := same
    have option {slot : Slot} {α : Type} (x : Option α)
        (h : x ≠ none → (slot ∈ slots kind ↔ slot ∈ slots' kind)) :
        (if slot ∈ slots kind then x else none) = if slot ∈ slots' kind then x else none := by
      cases x with
      | none => simp
      | some t => simp [h]
    have list {slot : Slot} {α : Type} (xs : List α)
        (h : xs ≠ [] → (slot ∈ slots kind ↔ slot ∈ slots' kind)) :
        (if slot ∈ slots kind then xs else []) = if slot ∈ slots' kind then xs else [] := by
      cases xs with
      | nil => simp
      | cons t ts => simp [h]
    rw [keep, keep, option name (own .attributeName), list values (own .values),
      list flags (own .flags), option type (own .objectType), list terms (own .orderTerms),
      keepAll_congr children a 0 inside]

theorem keepAll_congr : ∀ (ns : List Node) (a : Address) (i : Nat),
    (∀ e ∈ entriesAll a i ns, ∀ slot, e.2.Populates slot →
      (slot ∈ slots e.2.kind ↔ slot ∈ slots' e.2.kind)) →
      keepAll slots ns = keepAll slots' ns
  | [], _, _ => fun _ => by rw [keepAll, keepAll]
  | n :: ns, a, i => by
    intro same
    rw [entriesAll, List.forall_mem_append] at same
    rw [keepAll, keepAll, keep_congr n _ same.1, keepAll_congr ns a (i + 1) same.2]

end

end

/-! ## Slots that are not looked at -/

section
variable {s : Setting} {n : Node}

theorem rejectNested_keep (slots : NodeKind → List Slot) :
    (n.keep slots).rejectNested s = n.rejectNested s := by
  have labels (ns : List Node) : (keepAll slots ns).length = ns.length ∧
      (keepAll slots ns).head?.map (fun c => (c.kind, c.span)) =
        ns.head?.map fun c => (c.kind, c.span) := by
    induction ns with
    | nil => simp [keepAll]
    | cons n ns ih => simp [keepAll, ih.1]
  obtain ⟨count, first⟩ := labels n.children
  unfold rejectNested
  rw [children_keep, kind_keep, span_keep]
  cases hc : n.children with
  | nil => simp [keepAll]
  | cons c cs =>
    rw [hc] at count first
    simp only [keepAll] at count first ⊢
    simp [count]

theorem convertAll_keep (slots : NodeKind → List Slot) (a : Attribute) (ts : List Token) :
    Leaf.convertAll s (n.keep slots) a ts = Leaf.convertAll s n a ts := by
  induction ts with
  | nil => rfl
  | cons t ts ih => rw [Leaf.convertAll, Leaf.convertAll, span_keep, ih]

/-- A predicate is built from the slots that its kind looks at. -/
theorem build_keep {build : Leaf.Builder} (hb : Leaf.builder? n.kind = some build) :
    build s (n.keep NodeKind.examines) = build s n := by
  have convert := fun a => convertAll_keep (s := s) (n := n) NodeKind.examines a n.values
  obtain ⟨kind, span, name, values, flags, type, terms, children⟩ := n
  cases kind <;> cases hb <;> rw [keep] at *
  case oneOf =>
    -- The values are read one after the other, each with the span of the node.
    refine bind_congr fun a => bind_congr fun _ => ?_
    exact congrArg (· >>= _) (convert a)
  all_goals rfl

theorem readQuery_keep (removed : List NodeKind) (before : Nat)
    (inner : List (Spanned Query)) :
    (n.keep NodeKind.examines).readQuery s removed before inner =
      n.readQuery s removed before inner := by
  have bare : (n.keep NodeKind.examines).unconverted s before = n.unconverted s before := by
    rw [unconverted, unconverted, kind_keep, span_keep]
  have built {build : Leaf.Builder} (hb : Leaf.builder? n.kind = some build) :=
    build_keep (s := s) hb
  unfold readQuery
  rw [kind_keep, span_keep, bare]
  cases hk : n.kind <;> rw [hk] at built
  case and | or => cases inner <;> rfl
  case not => rcases inner with _ | ⟨q, _ | ⟨q', qs⟩⟩ <;> rfl
  case orderBy | unknown => rfl
  all_goals simp only [Leaf.builder?, built rfl]

mutual

/-- What is not looked at changes no reading, failures included. -/
theorem reading_keep (removed : List NodeKind) : ∀ (n : Node) (before : Nat),
    (n.keep NodeKind.examines).reading s removed before = n.reading s removed before
  | ⟨kind, span, name, values, flags, type, terms, children⟩, before => by
    have inside := readingAll_keepAll removed children before
    generalize hn : (⟨kind, span, name, values, flags, type, terms, children⟩ : Node) = n
    have hc : n.children = children := by rw [← hn]
    rw [← hc] at inside
    cases plain : n.rejectNested s with
    | error d =>
      rw [reading_of_nested plain, reading_of_nested (by rw [rejectNested_keep, plain])]
    | ok =>
      by_cases hk : n.kind.isScope
      · have hk' : (n.keep NodeKind.examines).kind.isScope := by rwa [kind_keep]
        rw [reading_of_scope hk, reading_of_scope hk', children_keep, inside]
        simp only [readQuery_keep, queryCountAll_keepAll, span_keep]
      · have hk' : ¬ (n.keep NodeKind.examines).kind.isScope := by rwa [kind_keep]
        have childless := (rejectNested_eq_ok.1 plain).resolve_left hk
        have childless' : (n.keep NodeKind.examines).children = [] := by
          rw [children_keep, childless, keepAll]
        by_cases ho : n.kind = .orderBy
        · have ho' : (n.keep NodeKind.examines).kind = .orderBy := by rwa [kind_keep]
          rw [reading_of_orderBy ho childless, reading_of_orderBy ho' childless', span_keep,
            orderTerms_keep (by rw [ho]; decide)]
        · have ho' : (n.keep NodeKind.examines).kind ≠ .orderBy := by rwa [kind_keep]
          rw [reading_of_leaf hk ho childless, reading_of_leaf hk' ho' childless',
            readQuery_keep, span_keep]

theorem readingAll_keepAll (removed : List NodeKind) : ∀ (ns : List Node) (before : Nat),
    readingAll s removed (keepAll NodeKind.examines ns) before = readingAll s removed ns before
  | [], _ => by rw [keepAll]
  | n :: ns, before => by
    rw [keepAll, readingAll, readingAll, reading_keep removed n, queryCount_keep]
    simp only [readingAll_keepAll removed ns]

end

/-! ## Slots that are looked at -/

theorem accepts_of_reading {removed : List NodeKind} {before : Nat} {r : Reading}
    (hb : (Leaf.builder? n.kind).isSome) (h : n.reading s removed before = .ok r) :
    ∃ q, Leaf.Accepts s n n.kind q := by
  cases says_of_reading h with
  | scope kind => cases hk : n.kind <;> simp [hk, NodeKind.isScope, Leaf.builder?] at kind hb
  | clause kind => simp [kind, Leaf.builder?] at hb
  | leaf scope _ _ query =>
    cases (readQuery_eq_ok.1 query).2 with
    | predicate accepts => exact ⟨_, accepts⟩
    | and kind | or kind | not kind => simp [kind, NodeKind.isScope] at scope

/-- A predicate that is made has no values or flags but those that its kind takes. -/
theorem not_populates_of_accepts {k : NodeKind} {q : Query} {slot : Slot}
    (h : Leaf.Accepts s n k q) (operand : slot = .values ∨ slot = .flags)
    (untaken : slot ∉ k.takes) : ¬ n.Populates slot := by
  intro populated
  rcases operand with rfl | rfl
  · cases h with
    | has _ values _ => exact populated values
    | all _ _ values _ => exact populated values
    | none _ _ values _ => exact populated values
    | comparison op => cases op <;> exact untaken (by decide)
    | textTest op => cases op <;> exact untaken (by decide)
    | _ => exact untaken (by decide)
  · cases h with
    | betweenVerbose => exact untaken (by decide)
    | comparison _ _ _ flags => exact populated flags
    | textTest _ _ _ flags => exact populated flags
    | between _ _ flags => exact populated flags
    | oneOf _ flags => exact populated flags
    | matchesRegex _ _ flags => exact populated flags
    | has _ _ flags => exact populated flags
    | all _ _ _ flags => exact populated flags
    | none _ _ _ flags => exact populated flags

/-- No surplus stands in a slot that is looked at when a node can be read. -/
theorem not_examined_of_reading {removed : List NodeKind} {before : Nat} {r : Reading}
    (h : n.reading s removed before = .ok r) {slot : Slot} (surplus : n.Surplus slot) :
    slot ∉ n.kind.examines := by
  obtain ⟨populated, untaken⟩ := surplus
  intro examined
  unfold NodeKind.examines at examined
  split at examined
  next hb =>
    have operand : slot = .values ∨ slot = .flags := by simpa [untaken] using examined
    obtain ⟨q, accepts⟩ := accepts_of_reading hb h
    exact not_populates_of_accepts accepts operand untaken populated
  next => exact untaken examined

end

end Node

/-! ## Trees -/

namespace ParseTree

/-- The tree with some slots of each kind kept and the others emptied. -/
def keep (slots : NodeKind → List Slot) (t : ParseTree) : ParseTree :=
  { t with nodes := Node.keepAll slots t.nodes }

end ParseTree

namespace Translator

theorem translation_keep (t : Translator) (removed : List NodeKind) (tree : ParseTree) :
    { t with handlers := .without removed }.translation (tree.keep NodeKind.examines) =
      { t with handlers := .without removed }.translation tree := by
  have same : outcome (tree.keep NodeKind.examines) = outcome tree := by
    funext r
    simp only [outcome, ParseTree.keep, Node.queryCountAll_keepAll]
    rfl
  rw [translation_eq_map_outcome, translation_eq_map_outcome, same]
  simp only [ParseTree.keep, Node.readingAll_keepAll]
  rfl

/-- What stands in a slot that is not looked at changes nothing. A tree is translated just
if no surplus stands in a slot that is looked at and the tree without any surplus is
translated, and then both say the same. -/
theorem translation_of_surplus (t : Translator) (tree : ParseTree) :
    let translation := { t with handlers := .default }.translation
    translation (tree.keep NodeKind.examines) = translation tree ∧
      ∀ done, translation tree = .ok done ↔
        (∀ e ∈ tree.entries, ∀ slot, e.2.Surplus slot → slot ∉ e.2.kind.examines) ∧
          translation (tree.keep NodeKind.takes) = .ok done := by
  intro translation
  have unread : translation (tree.keep NodeKind.examines) = translation tree :=
    translation_keep t [] tree
  have trimmed (h : ∀ e ∈ tree.entries, ∀ slot, e.2.Surplus slot → slot ∉ e.2.kind.examines) :
      tree.keep NodeKind.takes = tree.keep NodeKind.examines := by
    have same := Node.keepAll_congr tree.nodes [] 0 fun e he slot populated =>
      ⟨fun taken => e.2.kind.takes_subset_examines taken, fun examined => by
        by_contra untaken
        exact h e he slot ⟨populated, untaken⟩ examined⟩
    rw [ParseTree.keep, ParseTree.keep, same]
  refine ⟨unread, fun done => ⟨fun h => ?_, fun ⟨clean, h⟩ => ?_⟩⟩
  · have clean : ∀ e ∈ tree.entries, ∀ slot, e.2.Surplus slot → slot ∉ e.2.kind.examines := by
      intro e he slot surplus
      have whole : { t with handlers := .without [] }.translation tree = .ok done := h
      obtain ⟨before, r, read⟩ := reading_of_translation whole e he
      exact Node.not_examined_of_reading read surplus
    exact ⟨clean, by rw [trimmed clean, unread, h]⟩
  · rw [← unread, ← trimmed clean, h]

/-- An existence predicate with another object type than the one in use, and an ordering
term of no known attribute. -/
def crowdedTree : ParseTree where
  nodes := [{ Node.leaf .has "name" with
    objectType := some ⟨"company", {}⟩
    orderTerms := [⟨⟨"shoeSize", {}⟩, none⟩] }]

theorem translation_crowdedTree :
    let t := Schema.people.translator (fun _ => true) ⟨"person"⟩
    (∃ e ∈ crowdedTree.entries, e.2.Surplus .objectType ∧ e.2.Surplus .orderTerms) ∧
      ∃ done, t.translation crowdedTree = .ok done ∧
        done.rootQuery = .ok (.has ⟨"name", .string⟩) ∧ done.orders = [] := by
  refine ⟨⟨([0], _), List.mem_singleton.2 rfl, ?_, ?_⟩, _, rfl, rfl, rfl⟩
  · exact ⟨nofun, by decide⟩
  · exact ⟨nofun, by decide⟩

end Translator

end FilterQuery
