import FilterQuery.Proofs.Completeness

/-!
# Translations without some handlers

Taking handlers out of the table never changes what a translation says. A tree without nodes
of the removed kinds is translated as before. Any other tree that could be translated fails
at its first node of such a kind, in the order in which a walk leaves them, and the failure
tells how many queries were made before.
-/
namespace FilterQuery

namespace Handlers

theorem without_nil : without [] = default := rfl

theorem not_mem_of_has {removed : List NodeKind} {k : NodeKind} (h : (without removed).has k) :
    k ∉ removed := by
  intro gone
  rw [has, get?_without, if_pos gone] at h
  cases h

end Handlers

namespace Node

section
variable {s : Setting} {removed : List NodeKind} {n : Node}

/-- More handlers make the same queries. -/
theorem transfers_without (s : Setting) (removed : List NodeKind) : Transfers s removed s [] :=
  ⟨fun made _ => readQuery_eq_ok.2 ⟨List.not_mem_nil, (readQuery_eq_ok.1 made).2⟩,
    fun told => told⟩

/-- Nothing but an ordering clause can be read without a handler for its kind. -/
theorem has_of_reading {before : Nat} {r : Reading} (h : n.reading s removed before = .ok r)
    (ho : n.kind ≠ .orderBy) : (Handlers.without removed).has n.kind := by
  have handled {made : Nat} {inner : List (Spanned Query)} {q : Query}
      (query : n.readQuery s removed made inner = .ok q) :
      (Handlers.without removed).has n.kind := by
    rw [readQuery_eq] at query
    unfold Handlers.has
    cases handler : (Handlers.without removed).get? n.kind with
    | none => simp [handler, unconverted] at query
    | some h => rfl
  cases says_of_reading h with
  | scope _ _ query | leaf _ _ _ query => exact handled query
  | clause kind => exact absurd kind ho

/-- A node that can be read with all handlers fails without some of them only because its
own is missing. -/
theorem Fails.of_readable {made : Nat} {o : Obstacle} {d : Diagnostic} (hr : n.Readable s)
    (h : n.Fails s removed made o d) :
    o = .conversion ∧ n.kind ≠ .orderBy ∧ n.kind ∈ removed ∧
      d = (Failure.unconverted n.kind (made + 1) made).report s.source n.span [] := by
  cases h with
  | nesting refused => simp [rejectNested_of_readable hr] at refused
  | term _ kind terms => simp [readTerms_of_readable hr kind] at terms
  | @conversion _ _ inner _ kind children query =>
    obtain ⟨q, whole, -⟩ := readQuery_of_readable hr kind made fun _ =>
      (made_of_readingAll (readingAll_transfer (transfers_without s removed) _ children made)).symm
    have missing : n.kind ∈ removed := by
      by_contra present
      rw [readQuery_eq_ok.2 ⟨present, (readQuery_eq_ok.1 whole).2⟩] at query
      cases query
    rw [readQuery_eq, Handlers.get?_without, if_pos missing] at query
    cases query
    exact ⟨rfl, kind, missing, rfl⟩

end

end Node

namespace Translator

variable {t : Translator} {removed : List NodeKind} {tree : ParseTree}

/-- All nodes of a tree that is translated can be read. -/
theorem reading_of_translation {done : Translation}
    (h : { t with handlers := .without removed }.translation tree = .ok done) :
    ∀ e ∈ tree.entries,
      ∃ before r, e.2.reading (t.setting (sourceOf tree)) removed before = .ok r := by
  obtain ⟨r, read, -⟩ := exists_reading_of_translation h
  exact Node.reading_entriesAll tree.nodes [] 0 read

theorem has_of_translation {done : Translation}
    (h : { t with handlers := .without removed }.translation tree = .ok done) :
    ∀ e ∈ tree.entries, e.2.kind ≠ .orderBy → (Handlers.without removed).has e.2.kind := by
  intro e he ho
  obtain ⟨_, _, own⟩ := reading_of_translation h e he
  exact Node.has_of_reading own ho

/-- A translation that fails has a stop. -/
theorem exists_stop_of_translation {d : Diagnostic}
    (h : { t with handlers := .without removed }.translation tree = .error d) :
    ∃ stop : Stop, stop.Within (t.setting (sourceOf tree)) removed 0 tree.entries d := by
  rw [translation_eq_walkTree] at h
  cases hw : Progress.walkTree (t.setting (sourceOf tree)) (.without removed) tree {} with
  | ok u p => simp [hw] at h
  | error d' p =>
    rw [hw] at h
    cases h
    obtain ⟨⟨stop, within, -⟩, -⟩ :=
      Progress.walkAll_stops tree.nodes [] 0 .root (p := {}) rfl Scopes.tidy_empty.hosts_root hw
    exact ⟨stop, within⟩

/-- What a translation without some handlers says, it says with them. -/
theorem translation_of_without {done : Translation}
    (h : { t with handlers := .without removed }.translation tree = .ok done) :
    { t with handlers := .default }.translation tree = .ok done := by
  obtain ⟨r, read, -⟩ := exists_reading_of_translation h
  rw [translation_eq_map_outcome, read] at h
  have whole := Node.readingAll_transfer (Node.transfers_without _ removed) _ read 0
  rw [← Handlers.without_nil, translation_eq_map_outcome, whole, h]

/-- A translation that fails only without some handlers stops at a node of a removed kind,
after nodes that all have their handlers. -/
theorem stops_at_removed {done : Translation} {d : Diagnostic}
    (whole : { t with handlers := .default }.translation tree = .ok done)
    (reduced : { t with handlers := .without removed }.translation tree = .error d) :
    ∃ front a n back, tree.entries = front ++ (a, n) :: back ∧
      (∀ e ∈ front, e.2.kind ≠ .orderBy → e.2.kind ∉ removed) ∧ n.kind ∈ removed ∧
      let k := front.countP (·.2.kind.makesQuery)
      d = (Failure.unconverted n.kind (k + 1) k).report (sourceOf tree) n.span [] := by
  obtain ⟨⟨front, a, n, o⟩, ⟨back, order⟩, read, fails⟩ := exists_stop_of_translation reduced
  have readable : n.Readable (t.setting (sourceOf tree)) := by
    -- The node is ahead when it is left, and for nesting as the last of what it contains.
    have own : (a, n) ∈ (Stop.mk front a n o).ahead := by
      cases o <;> simp [Stop.ahead, Node.entries_eq]
    rw [← Handlers.without_nil] at whole
    obtain ⟨_, r, read⟩ := reading_of_translation whole (a, n) (by rw [order]; simp [own])
    exact ⟨r, Node.reading_zero read⟩
  obtain ⟨rfl, -, gone, report⟩ := fails.of_readable readable
  refine ⟨front, a, n, back, ?_, fun e he ho => ?_, gone, ?_⟩
  · rw [order, Stop.ahead, List.append_assoc, List.singleton_append]
  · obtain ⟨_, _, own⟩ := read e he
    exact Handlers.not_mem_of_has (Node.has_of_reading own ho)
  · rw [Nat.zero_add] at report
    exact report

/-- Which of two translations of a tree, with all handlers and without some, succeed, and how
they differ. The first node of a removed kind is named with the number of queries that it
would have been, and with those that were made before it. No node but an ordering clause is
passed over for want of a handler. -/
theorem translation_without (t : Translator) (removed : List NodeKind) (tree : ParseTree) :
    let whole := { t with handlers := .default }.translation tree
    let reduced := { t with handlers := .without removed }.translation tree
    (∀ done, whole = .ok done →
      ((∀ e ∈ tree.entries, e.2.kind ∉ removed) → reduced = .ok done) ∧
      ((∀ k ∈ removed, k.makesQuery) → (∃ e ∈ tree.entries, e.2.kind ∈ removed) →
        ∃ front a n back d, tree.entries = front ++ (a, n) :: back ∧
          (∀ e ∈ front, e.2.kind ∉ removed) ∧ n.kind ∈ removed ∧ reduced = .error d ∧
          let k := front.countP (·.2.kind.makesQuery)
          d.kind = .incompleteTranslation ∧ d.span = some n.span ∧
            d.message =
              s!"no conversion for '{n.kind.name}' ({k + 1} queries encountered, {k} converted)")) ∧
      ∀ done, reduced = .ok done →
        ∀ e ∈ tree.entries, e.2.kind ≠ .orderBy → (Handlers.without removed).has e.2.kind := by
  intro whole reduced
  refine ⟨fun done hw => ⟨fun spared => ?_, fun queries ⟨e, he, gone⟩ => ?_⟩,
    fun done hr => has_of_translation hr⟩
  · cases hr : reduced with
    | ok done' => rw [← hw, ← translation_of_without hr]
    | error d =>
      obtain ⟨front, a, n, back, split, -, gone, -⟩ := stops_at_removed hw hr
      exact absurd gone (spared (a, n) (by rw [split]; simp))
  · have order {k : NodeKind} (h : k ∈ removed) : k ≠ .orderBy := bne_iff_ne.1 (queries k h)
    cases hr : reduced with
    | ok done' =>
      exact absurd gone (Handlers.not_mem_of_has (has_of_translation hr e he (order gone)))
    | error d =>
      obtain ⟨front, a, n, back, split, first, gone, rfl⟩ := stops_at_removed hw hr
      exact ⟨front, a, n, back, _, split, fun e' he' gone' => first e' he' (order gone') gone',
        gone, rfl, rfl, rfl, rfl⟩

/-- A conjunction inside a negation, both without handlers: the inner one is named. -/
theorem translation_without_nested :
    ∃ front a n back d, nestedTree.entries = front ++ (a, n) :: back ∧
      (∀ e ∈ front, e.2.kind ∉ [.not, .and]) ∧ n.kind ∈ [NodeKind.not, .and] ∧
      { ofText ⟨"person"⟩ with handlers := .without [.not, .and] }.translation nestedTree =
        .error d ∧
      let k := front.countP (·.2.kind.makesQuery)
      d.kind = .incompleteTranslation ∧ d.span = some n.span ∧
        d.message =
          s!"no conversion for '{n.kind.name}' ({k + 1} queries encountered, {k} converted)" :=
  ((translation_without (ofText ⟨"person"⟩) [.not, .and] nestedTree).1 _ rfl).2 (by decide)
    (by decide)

end Translator

end FilterQuery
