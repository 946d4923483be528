import FilterQuery.Proofs.LeafChecks
import FilterQuery.Proofs.MissingHandler

/-!
# What a failed translation points at

A translation fails at a node, or because the tree has not one top-level query. At a node it
points at the token at fault, and at the whole node if none is or if its place is not known.
The labels besides are those of other nodes: the first of the nodes that are nested where none
may be, and the queries where a scope or the tree has the wrong number of them.
-/
namespace FilterQuery

theorem Span.toNat_markLength (s : Span) :
    s.markLength.toNat = max (s.stop.toNat - s.start.toNat) 1 := by
  unfold markLength
  split
  · rename_i h
    have hlt : s.start.toNat < s.stop.toNat := UInt64.lt_iff_toNat_lt.1 h
    rw [UInt64.toNat_sub_of_le _ _ (UInt64.le_of_lt h)]
    omega
  · rename_i h
    have hle : ¬ s.start.toNat < s.stop.toNat := fun hlt => h (UInt64.lt_iff_toNat_lt.2 hlt)
    have one : (1 : UInt64).toNat = 1 := rfl
    omega

/-- The mark is where the label is, as many bytes long as its span and at least one. -/
structure Mark.Shows (m : Mark) (l : Label) : Prop where
  text : m.text = l.text
  start : m.start = l.span.start
  length : m.length.toNat = max (l.span.stop.toNat - l.span.start.toNat) 1

theorem Label.shows_mark (l : Label) : l.mark.Shows l := ⟨rfl, rfl, l.span.toNat_markLength⟩

theorem Label.shows_map_mark (ls : List Label) : List.Forall₂ Mark.Shows (ls.map mark) ls := by
  induction ls with
  | nil => exact .nil
  | cons l ls ih => exact .cons l.shows_mark ih

/-- From the start of the first to the end of the last of the spans. -/
def Span.across (ss : List Span) : Span :=
  match ss.head?, ss.getLast? with
  | some first, some last => ⟨first.start, last.stop⟩
  | _, _ => {}

namespace Node

/-- The tokens of the node that are looked up or read. -/
def tokens (n : Node) : List Token :=
  n.attributeName.toList ++ n.values ++ n.flags ++ n.objectType.toList ++
    n.orderTerms.map (·.attributeName)

/-- The token that is to blame for the obstacle, if any: the first of the ordering terms that
does not resolve, or the token of the first check that the node does not pass. -/
def culprit? (s : Setting) (removed : List NodeKind) (n : Node) : Obstacle → Option Token
  | .nesting => none
  | .term =>
    (n.orderTerms.map (·.attributeName)).find? fun t =>
      (s.resolver t.text .ordered).toOption.isNone
  | .conversion =>
    if n.kind ∈ removed then none
    else ((Leaf.checks n).find? fun c => (c.failure? s n).isSome).bind (·.token? n)

/-- What is labelled besides the place of the failure, when `makes` tells which query is made
of a node. -/
inductive Relates (makes : Node → Spanned Query → Prop) (removed : List NodeKind) (n : Node) :
    Obstacle → List Label → Prop
  /-- The first of the nodes inside. -/
  | nesting {child : Node} {rest : List Node} (inside : n.children = child :: rest) :
      Relates makes removed n .nesting [⟨child.span, s!"nested '{child.kind.name}'"⟩]
  /-- The queries of a negation that has not exactly one. -/
  | negation {qs : List (Spanned Query)} (kind : n.kind = .not) (kept : .not ∉ removed)
      (made : List.Forall₂ makes (n.children.filter (·.kind.makesQuery)) qs)
      (number : qs.length ≠ 1) : Relates makes removed n .conversion (queryLabels qs)
  | alone {o : Obstacle} (plain : o ≠ .nesting)
      (other : o = .conversion → n.kind = .not → .not ∈ removed) : Relates makes removed n o []

end Node

/-! ## Tokens to blame -/

namespace Leaf

variable {s : Setting} {n : Node}

/-- The token of the check, if it has one, stands in the node. -/
def Check.Owned (n : Node) (c : Check) : Prop := ∀ t, c.token? n = some t → t ∈ n.tokens

theorem owned_attributeName (c : Capability) : (Check.attributeName c).Owned n := by
  intro t (h : n.attributeName = some t)
  simp [Node.tokens, h]

theorem owned_objectType : Check.objectType.Owned n := by
  intro t (h : n.objectType = some t)
  simp [Node.tokens, h]

theorem owned_of_none {c : Check} (h : c.token? n = none) : c.Owned n := by
  intro t ht
  rw [h] at ht
  cases ht

theorem owned_of_mem {c : Check} {t : Token} (h : c.token? n = some t)
    (ht : t ∈ n.values ∨ t ∈ n.flags) : c.Owned n := by
  intro u hu
  obtain rfl : t = u := Option.some.inj (h.symm.trans hu)
  rcases ht with ht | ht <;> simp [Node.tokens, ht]

/-- Every token that a node is checked for stands in it. -/
theorem owned_of_mem_checks : ∀ c ∈ checks n, c.Owned n := by
  have values (count : Nat) : (Check.values count).Owned n := owned_of_none rfl
  have flags (count : Nat) : (Check.flags count).Owned n := owned_of_none rfl
  have value (c : Capability) : ∀ t ∈ n.values, (Check.value c t).Owned n :=
    fun t ht => owned_of_mem rfl (.inl ht)
  have literals (c : Capability) (count : Nat) :
      ∀ c' ∈ literalChecks n c count, c'.Owned n := by
    simp only [literalChecks, List.forall_mem_cons, List.forall_mem_map]
    exact ⟨owned_attributeName c, values count, flags 0, value c⟩
  have texts : ∀ c ∈ textChecks n, c.Owned n := by
    simp only [textChecks, List.forall_mem_cons, List.forall_mem_flatMap]
    exact ⟨owned_attributeName .text, values 1, flags 0,
      fun t ht => ⟨value .text t ht, owned_of_mem rfl (.inl ht), List.forall_mem_nil _⟩⟩
  cases hk : n.kind <;> simp only [checks, hk]
  case equal | lessThan | lessThanOrEqual | greaterThan | greaterThanOrEqual | between =>
    exact literals _ _
  case betweenVerbose =>
    simp only [List.forall_mem_cons, List.forall_mem_flatMap]
    refine ⟨owned_attributeName .ordered, values 2, flags 2, ?_⟩
    rintro ⟨t, f⟩ pair
    obtain ⟨ht, hf⟩ := List.of_mem_zip pair
    exact ⟨value .ordered t ht, owned_of_mem rfl (.inr hf), List.forall_mem_nil _⟩
  case oneOf =>
    simp only [List.forall_mem_cons, List.forall_mem_map]
    exact ⟨owned_attributeName .unconstrained, flags 0, value .unconstrained⟩
  case startsWith | endsWith | contains | isContainedIn => exact texts
  case matchesRegex =>
    simp only [List.forall_mem_append, List.forall_mem_map]
    exact ⟨texts, fun t ht => owned_of_mem rfl (.inl ht)⟩
  case has =>
    simp only [List.forall_mem_cons]
    exact ⟨owned_attributeName .unconstrained, values 0, flags 0, List.forall_mem_nil _⟩
  case all | none =>
    simp only [List.forall_mem_cons]
    exact ⟨owned_objectType, values 0, flags 0, List.forall_mem_nil _⟩
  case and | or | not | orderBy | unknown => exact List.forall_mem_nil _

/-- A failing builder blames the token of the first check that the node does not pass. -/
theorem exists_report_of_build {build : Builder} (hb : builder? n.kind = some build)
    {d : Diagnostic} (h : build s n = .error d) {removed : List NodeKind}
    (kept : n.kind ∉ removed) :
    ∃ f : Failure, d = f.report s.source (n.place (n.culprit? s removed .conversion)) [] := by
  obtain ⟨before, c, after, order, passed, fault⟩ := (build_eq_error hb).1 h
  obtain ⟨f, failure, rfl⟩ := Option.map_eq_some_iff.1 fault
  have first : (checks n).find? (fun c => (c.failure? s n).isSome) = some c := by
    refine List.find?_eq_some_iff_append.2 ⟨by simp [failure], before, after, order, ?_⟩
    intro b hb
    simpa [Check.fault?] using passed b hb
  refine ⟨f, ?_⟩
  rw [Node.culprit?, if_neg kept, first]
  rfl

end Leaf

/-- A clause fails for the first of its terms that does not resolve. -/
theorem Setting.exists_report_of_readTerms {s : Setting} {span : Span} {ts : List OrderTerm}
    {d : Diagnostic} (h : s.readTerms span ts = .error d) :
    ∃ (f : Failure) (t : Token),
      (ts.map (·.attributeName)).find? (fun t => (s.resolver t.text .ordered).toOption.isNone) =
        some t ∧
      d = f.report s.source (t.spanOr span) [] := by
  induction ts with
  | nil => cases h
  | cons t ts ih =>
    rw [readTerms, List.mapM_cons, bind_eq_error] at h
    rw [List.map_cons, List.find?_cons]
    cases found : s.resolver t.attributeName.text .ordered with
    | error e =>
      have refused : s.readTerm span t =
          .error ((Failure.unresolved e).report s.source (t.attributeName.spanOr span) []) := by
        simp [readTerm, resolve, found, fail, Except.map]
      rcases h with h | ⟨o, ho, -⟩
      · rw [refused] at h
        cases h
        exact ⟨_, _, rfl, rfl⟩
      · rw [refused] at ho
        cases ho
    | ok a =>
      have read : s.readTerm span t = .ok ⟨a, isDescending t.direction⟩ :=
        readTerm_eq_ok.2 ⟨found, rfl⟩
      have rest : s.readTerms span ts = .error d := by
        rcases h with h | ⟨o, -, h⟩
        · rw [read] at h
          cases h
        · rcases bind_eq_error.1 h with rest | ⟨_, _, h⟩
          · exact rest
          · cases h
      exact ih rest

/-! ## Nodes at fault -/

section
variable {s : Setting} {n : Node} {d : Diagnostic}

theorem exists_report_of_rejectNested (h : n.rejectNested s = .error d) :
    ∃ child rest, n.children = child :: rest ∧
      ∃ f : Failure,
        d = f.report s.source n.span [⟨child.span, s!"nested '{child.kind.name}'"⟩] := by
  unfold Node.rejectNested at h
  split at h
  · cases h
  · rename_i child rest inside
    split at h
    · cases h
    · cases h
      exact ⟨child, rest, inside, _, rfl⟩

theorem exists_report_of_reduceJunction {op : Junction} {qs : List (Spanned Query)}
    (h : reduceJunction op s n qs = .error d) : ∃ f : Failure, d = f.report s.source n.span [] := by
  unfold reduceJunction at h
  split at h <;> cases h
  exact ⟨_, rfl⟩

theorem exists_report_of_reduceNot {qs : List (Spanned Query)}
    (h : reduceNot s n qs = .error d) :
    qs.length ≠ 1 ∧ ∃ f : Failure, d = f.report s.source n.span (queryLabels qs) := by
  match qs with
  | [] =>
    cases h
    exact ⟨by simp, _, rfl⟩
  | [_] => cases h
  | _ :: _ :: _ =>
    cases h
    exact ⟨by simp, _, rfl⟩

end

namespace Node

section
variable {s : Setting} {removed : List NodeKind} {makes : Node → Spanned Query → Prop}

/-- The queries that nodes say are those of the nodes that make one, in order. -/
theorem forall₂_of_readingAll
    (hm : ∀ {n : Node} {q : Query} {before : Nat} {os : List Order},
      n.reading s removed before = .ok ⟨[⟨q, n.span⟩], os⟩ → makes n ⟨q, n.span⟩)
    (ns : List Node) {before : Nat} {r : Reading} (h : readingAll s removed ns before = .ok r) :
    List.Forall₂ makes (ns.filter (·.kind.makesQuery)) r.queries := by
  induction ns generalizing before r with
  | nil =>
    cases h
    exact .nil
  | cons n ns ih =>
    obtain ⟨r₁, r₂, h₁, h₂, rfl⟩ := readingAll_cons_eq_ok.1 h
    rw [filter_makesQuery_cons, Reading.append]
    refine List.rel_append ?_ (ih h₂)
    cases says_of_reading h₁ with
    | scope kind _ _ =>
      rw [if_neg (NodeKind.ne_orderBy_of_isScope kind)]
      exact .cons (hm h₁) .nil
    | leaf _ order _ _ =>
      rw [if_neg order]
      exact .cons (hm h₁) .nil
    | clause kind _ _ =>
      rw [if_pos kind]
      exact .nil

/-- A node that fails is blamed itself, or one of its tokens is. -/
theorem Fails.exists_report
    (hm : ∀ {n : Node} {q : Query} {before : Nat} {os : List Order},
      n.reading s removed before = .ok ⟨[⟨q, n.span⟩], os⟩ → makes n ⟨q, n.span⟩)
    {n : Node} {made : Nat} {o : Obstacle} {d : Diagnostic} (h : n.Fails s removed made o d) :
    ∃ (f : Failure) (related : List Label),
      d = f.report s.source (n.place (n.culprit? s removed o)) related ∧
        n.Relates makes removed o related := by
  cases h with
  | nesting refused =>
    obtain ⟨child, rest, inside, f, rfl⟩ := exists_report_of_rejectNested refused
    exact ⟨f, _, rfl, .nesting inside⟩
  | term _ _ terms =>
    obtain ⟨f, t, first, rfl⟩ := Setting.exists_report_of_readTerms terms
    refine ⟨f, [], ?_, .alone (by simp) (by simp)⟩
    rw [culprit?, first]
    rfl
  | @conversion _ before inner _ _ children query =>
    have whole (h : n.kind ∈ removed ∨ Leaf.checks n = []) :
        n.culprit? s removed .conversion = none := by
      rcases h with gone | unchecked
      · rw [culprit?, if_pos gone]
      · simp [culprit?, unchecked]
    rw [readQuery_eq, Handlers.get?_without] at query
    by_cases gone : n.kind ∈ removed
    · rw [if_pos gone] at query
      cases query
      rw [whole (.inl gone)]
      exact ⟨_, [], rfl, .alone (by simp) fun _ kind => kind ▸ gone⟩
    rw [if_neg gone] at query
    cases hk : n.kind <;> rw [hk] at query
    case and | or =>
      obtain ⟨f, rfl⟩ := exists_report_of_reduceJunction query
      rw [whole (.inr (by simp [Leaf.checks, hk]))]
      exact ⟨f, [], rfl, .alone (by simp) (by simp [hk])⟩
    case not =>
      obtain ⟨number, f, rfl⟩ := exists_report_of_reduceNot query
      rw [whole (.inr (by simp [Leaf.checks, hk]))]
      exact ⟨f, _, rfl, .negation hk (hk ▸ gone) (forall₂_of_readingAll hm _ children) number⟩
    case orderBy | unknown =>
      cases query
      rw [whole (.inr (by simp [Leaf.checks, hk]))]
      exact ⟨_, [], rfl, .alone (by simp) (by simp [hk])⟩
    all_goals
      obtain ⟨f, rfl⟩ := Leaf.exists_report_of_build (by rw [hk]; rfl) query gone
      exact ⟨f, [], rfl, .alone (by simp) (by simp [hk])⟩

theorem mem_tokens_of_culprit? {n : Node} {o : Obstacle} {t : Token}
    (h : n.culprit? s removed o = some t) : t ∈ n.tokens := by
  cases o with
  | nesting => cases h
  | term =>
    have listed : t ∈ n.orderTerms.map (·.attributeName) := List.mem_of_find?_eq_some h
    exact List.mem_append_right _ listed
  | conversion =>
    rw [culprit?] at h
    split at h
    · cases h
    · obtain ⟨c, first, own⟩ := Option.bind_eq_some_iff.1 h
      exact Leaf.owned_of_mem_checks c (List.mem_of_find?_eq_some first) t own

end

end Node

theorem Translation.result_eq_error {t : Translation} {d : Diagnostic} :
    t.result = .error d ↔ t.roots.length ≠ 1 ∧ d = t.arityError t.roots := by
  unfold result takeRoots
  match h : t.roots with
  | [] => simp [arityError, eq_comm]
  | [q] => simp
  | _ :: _ :: _ => simp [arityError, eq_comm]

namespace Translator

variable {t : Translator} {removed : List NodeKind} {tree : ParseTree} {d : Diagnostic}

/-- The query is the one of the tree whose only top-level node this is. -/
def Converts (t : Translator) (removed : List NodeKind) (tree : ParseTree) (n : Node)
    (q : Spanned Query) : Prop :=
  { t with handlers := .without removed }.query { tree with nodes := [n] } = .ok q.value ∧
    q.span = n.span

/-- What a diagnostic points at and labels when the tree cannot be translated. -/
inductive Points (t : Translator) (removed : List NodeKind) (tree : ParseTree) (d : Diagnostic) :
    Prop
  /-- The walk stops at a node. The diagnostic points at the token of it that is to blame, or
  else at the whole node. -/
  | node {stop : Stop} {culprit : Option Token}
      (within : stop.Within (t.setting (sourceOf tree)) removed 0 tree.entries d)
      (blamed : stop.node.culprit? (t.setting (sourceOf tree)) removed stop.obstacle = culprit)
      (own : ∀ u, culprit = some u → u ∈ stop.node.tokens)
      (span : d.span = some (stop.node.place culprit))
      (related : stop.node.Relates (t.Converts removed tree) removed stop.obstacle d.related) :
      Points t removed tree d
  /-- All nodes are converted, but there is not one query at the top. -/
  | roots {qs : List (Spanned Query)}
      (made : List.Forall₂ (t.Converts removed tree) (tree.nodes.filter (·.kind.makesQuery)) qs)
      (number : qs.length ≠ 1)
      (span : d.span =
        some (.across ((tree.nodes.filter (·.kind.makesQuery)).map (·.span))))
      (related : d.related = queryLabels qs) : Points t removed tree d

theorem converts_of_reading {n : Node} {q : Query} {before : Nat} {os : List Order}
    (h : n.reading (t.setting (sourceOf tree)) removed before = .ok ⟨[⟨q, n.span⟩], os⟩) :
    t.Converts removed tree n ⟨q, n.span⟩ := by
  refine ⟨?_, rfl⟩
  have read : Node.readingAll (t.setting (sourceOf tree)) removed [n] 0 =
      .ok ⟨[⟨q, n.span⟩], os⟩ := by
    refine Node.readingAll_cons_eq_ok.2 ⟨_, {}, Node.reading_withSource n h _ 0, rfl, ?_⟩
    simp [Reading.append]
  have whole := translation_eq_map_outcome t removed { tree with nodes := [n] }
  rw [show sourceOf { tree with nodes := [n] } = sourceOf tree from rfl, read] at whole
  rw [query, translate, whole]
  rfl

theorem hull_eq_across {ns : List Node} {qs : List (Spanned Query)}
    (h : List.Forall₂ (t.Converts removed tree) ns qs) :
    Translation.hull qs = .across (ns.map (·.span)) := by
  have spans : qs.map (·.span) = ns.map (·.span) := by
    induction h with
    | nil => rfl
    | cons first _ ih => rw [List.map_cons, List.map_cons, first.2, ih]
  rw [← spans, Translation.hull, Span.across, List.head?_map, List.getLast?_map]
  cases qs.head? <;> cases qs.getLast? <;> rfl

/-- Every failure is reported with the source of the tree. -/
theorem exists_report_of_translate
    (h : { t with handlers := .without removed }.translate tree = .error d) :
    ∃ (f : Failure) (span : Span) (related : List Label),
      d = f.report (sourceOf tree) span related ∧ t.Points removed tree d := by
  rcases bind_eq_error.1 h with stopped | ⟨done, translated, surplus⟩
  · obtain ⟨stop, within⟩ := exists_stop_of_translation stopped
    obtain ⟨f, related, rfl, relates⟩ := within.fails.exists_report converts_of_reading
    exact ⟨f, _, related, rfl,
      .node within rfl (fun u => Node.mem_tokens_of_culprit?) rfl relates⟩
  · rw [translation_eq_map_outcome] at translated
    obtain ⟨r, read, rfl⟩ := Literal.exists_of_map_eq_ok translated
    have made := Node.forall₂_of_readingAll converts_of_reading tree.nodes read
    obtain ⟨number, rfl⟩ := Translation.result_eq_error.1 surplus
    have span : Translation.hull r.queries = _ := hull_eq_across made
    exact ⟨_, _, _, rfl, .roots made number (congrArg some span) rfl⟩

/-- A translation that fails points into its tree. The diagnostic has the text of the tree as
its source, if there is a text. Its place is a node that the walk stops at, or the token of it
that is to blame, or all that stands at the top; and what it labels besides are the nodes or
queries that are too many there. Marks are given for a text only, one for the place of the
failure with its message, and then one for each of the labels. -/
theorem points_of_translate (t : Translator) (removed : List NodeKind) (tree : ParseTree)
    {d : Diagnostic}
    (h : { t with handlers := .without removed }.translate tree = .error d) :
    d.source = (if tree.source = "" then none else some ⟨tree.name, tree.source⟩) ∧
      (∃ span, d.span = some span ∧
        List.Forall₂ Mark.Shows d.labels
          (if tree.source = "" then [] else ⟨span, d.message⟩ :: d.related)) ∧
      t.Points removed tree d := by
  obtain ⟨f, span, related, report, points⟩ := exists_report_of_translate h
  have source : sourceOf tree =
      if tree.source = "" then none else some ⟨tree.name, tree.source⟩ := by
    simp [sourceOf, String.isEmpty_iff]
  refine ⟨?_, ⟨span, ?_, ?_⟩, points⟩
  · rw [report, ← source]
    rfl
  · rw [report]
    rfl
  · rw [report, Diagnostic.labels, Failure.report, source]
    by_cases empty : tree.source = ""
    · rw [if_pos empty, if_pos empty]
      exact .nil
    · rw [if_neg empty, if_neg empty]
      exact Label.shows_map_mark (⟨span, _⟩ :: related)

/-- A negation of two queries in its text. -/
def twofoldTree : ParseTree where
  name := "filter"
  source := "not(has(name), has(age))"
  nodes := [{ kind := .not, span := ⟨0, 24⟩, children := [
    { kind := .has, span := ⟨4, 13⟩, attributeName := some ⟨"name", ⟨8, 12⟩⟩ },
    { kind := .orderBy, span := ⟨13, 14⟩ },
    { kind := .has, span := ⟨15, 23⟩, attributeName := some ⟨"age", ⟨19, 22⟩⟩ }] }]

theorem points_of_translate_twofold :
    ∃ d, { ofText ⟨"person"⟩ with handlers := .without [.between] }.translate twofoldTree =
        .error d ∧
      d.labels = [⟨"'not' takes exactly one query, found 2", 0, 24⟩,
        ⟨"query 1: has", 4, 9⟩, ⟨"query 2: has", 15, 8⟩] ∧
      (ofText ⟨"person"⟩).Points [.between] twofoldTree d :=
  ⟨_, rfl, by decide,
    (points_of_translate (ofText ⟨"person"⟩) [.between] twofoldTree rfl).2.2⟩

end Translator

end FilterQuery
