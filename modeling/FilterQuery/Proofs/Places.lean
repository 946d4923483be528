import FilterQuery.Proofs.Walk

/-!
# Places do not matter

Spans, and the name and the text of a tree, say where things stand. A thing is loose that does
not tell its place: `loose` forgets the places in trees, and in all that a translation makes of
them. Each step of a translation does with loose things what it does with the things
themselves, so that a loose tree has the outcome of the tree, made loose; and trees that are
the same when loose have the same outcome, wherever their nodes and tokens stand.
-/
namespace FilterQuery

/-! ## Without places -/

/-- The token without its place. -/
def Token.loose (t : Token) : Token := { t with span := {} }

def OrderTerm.loose (t : OrderTerm) : OrderTerm :=
  ⟨t.attributeName.loose, t.direction.map Token.loose⟩

namespace Node

mutual

/-- The node without its span and without those of its tokens and of all beneath it. -/
def loose : Node → Node
  | ⟨kind, _, name, values, flags, type, terms, children⟩ =>
    { kind, attributeName := name.map Token.loose, values := values.map Token.loose,
      flags := flags.map Token.loose, objectType := type.map Token.loose,
      orderTerms := terms.map OrderTerm.loose, children := looseAll children }

def looseAll : List Node → List Node
  | [] => []
  | n :: ns => loose n :: looseAll ns

end

@[simp] theorem length_looseAll (ns : List Node) : (looseAll ns).length = ns.length := by
  induction ns with
  | nil => rfl
  | cons n ns ih => simp [looseAll, ih]

section
variable (n : Node)

@[simp] theorem kind_loose : n.loose.kind = n.kind := by cases n; rfl
@[simp] theorem span_loose : n.loose.span = {} := by cases n; rfl
@[simp] theorem attributeName_loose :
    n.loose.attributeName = n.attributeName.map Token.loose := by cases n; rfl
@[simp] theorem values_loose : n.loose.values = n.values.map Token.loose := by cases n; rfl
@[simp] theorem flags_loose : n.loose.flags = n.flags.map Token.loose := by cases n; rfl
@[simp] theorem objectType_loose : n.loose.objectType = n.objectType.map Token.loose := by
  cases n; rfl
@[simp] theorem orderTerms_loose : n.loose.orderTerms = n.orderTerms.map OrderTerm.loose := by
  cases n; rfl
@[simp] theorem children_loose : n.loose.children = looseAll n.children := by cases n; rfl

end

end Node

/-- The nodes of the tree without spans, and neither a name nor a text to point into. -/
def ParseTree.loose (t : ParseTree) : ParseTree := { nodes := Node.looseAll t.nodes }

def Spanned.loose {α : Type} (x : Spanned α) : Spanned α := { x with span := {} }

def Label.loose (l : Label) : Label := { l with span := {} }

/-- The diagnostic without source and spans; it still tells whether it had a span. -/
def Diagnostic.loose (d : Diagnostic) : Diagnostic :=
  { d with source := none, span := d.span.map fun _ => {}, related := d.related.map Label.loose }

def Setting.loose (s : Setting) : Setting := { s with source := none }

def Scopes.loose (s : Scopes) : Scopes :=
  { s with children := s.children.map fun _ qs => qs.map Spanned.loose }

def Progress.loose (p : Progress) : Progress := { p with scopes := p.scopes.loose }

def NodeExit.loose (x : NodeExit) : NodeExit := { x with node := x.node.loose }

def Translation.loose (t : Translation) : Translation :=
  { t with roots := t.roots.map Spanned.loose, source := none }

/-! ## Outcomes -/

section
variable {α β γ δ : Type}

/-- An outcome without places, where `strip` takes them from a result. -/
def looseOutcome (strip : α → β) : Except Diagnostic α → Except Diagnostic β
  | .ok a => .ok (strip a)
  | .error d => .error d.loose

/-- Computations that do the same with loose things may be put one after the other. -/
theorem bind_loose {strip : α → γ} {strip' : β → δ} {x : Except Diagnostic α}
    {y : Except Diagnostic γ} {f : α → Except Diagnostic β} {g : γ → Except Diagnostic δ}
    (hx : y = looseOutcome strip x) (hf : ∀ a, g (strip a) = looseOutcome strip' (f a)) :
    y >>= g = looseOutcome strip' (x >>= f) := by
  subst hx
  cases x with
  | ok a => exact hf a
  | error d => rfl

end

@[simp] theorem Token.text_loose (t : Token) : t.loose.text = t.text := rfl

@[simp] theorem Token.spanOr_loose (t : Token) : t.loose.spanOr {} = {} := by
  simp [spanOr, loose]

@[simp] theorem queryLabels_loose (qs : List (Spanned Query)) :
    queryLabels (qs.map Spanned.loose) = (queryLabels qs).map Label.loose := by
  simp [queryLabels, List.zipIdx_map, Spanned.loose, Label.loose, Function.comp_def]

namespace Setting

variable (s : Setting)

@[simp] theorem resolver_loose : s.loose.resolver = s.resolver := rfl
@[simp] theorem converter_loose : s.loose.converter = s.converter := rfl
@[simp] theorem compiles_loose : s.loose.compiles = s.compiles := rfl
@[simp] theorem objectType_loose : s.loose.objectType = s.objectType := rfl

theorem fail_loose {α β : Type} (strip : α → β) (f : Failure) (span : Span)
    (related : List Label) :
    s.loose.fail f {} (related.map Label.loose) = looseOutcome strip (s.fail f span related) := rfl

theorem resolve_loose (t : Token) (c : Capability) (fallback : Span) :
    s.loose.resolve t.loose c {} = looseOutcome id (s.resolve t c fallback) := by
  simp only [resolve, resolver_loose, Token.text_loose, Token.spanOr_loose]
  cases s.resolver t.text c with
  | ok a => rfl
  | error e => exact s.fail_loose id _ _ []

theorem convertAs_loose (vt : ValueType) (attributeName : Option String) (t : Token)
    (fallback : Span) :
    s.loose.convertAs vt attributeName t.loose {} =
      looseOutcome id (s.convertAs vt attributeName t fallback) := by
  simp only [convertAs, converter_loose, Token.text_loose, Token.spanOr_loose]
  cases s.converter vt t.text with
  | ok v => rfl
  | error e => exact s.fail_loose id _ _ []

theorem convert_loose (a : Attribute) (t : Token) (fallback : Span) :
    s.loose.convert a t.loose {} = looseOutcome id (s.convert a t fallback) :=
  s.convertAs_loose a.valueType (some a.name) t fallback

end Setting

/-! ## Handlers -/

namespace Leaf

variable (s : Setting) (n : Node)

theorem missing_loose (what : String) {α β : Type} (strip : α → β) :
    missing s.loose n.loose what = looseOutcome strip (missing s n what) := by
  simp only [missing, Node.kind_loose, Node.span_loose]
  exact s.fail_loose strip _ _ []

theorem theAttribute_loose (c : Capability) :
    theAttribute s.loose n.loose c = looseOutcome id (theAttribute s n c) := by
  simp only [theAttribute, Node.attributeName_loose, Node.span_loose]
  cases n.attributeName with
  | none => exact missing_loose s n _ id
  | some t => exact s.resolve_loose t c n.span

theorem requireCount_loose (what : String) (ts : List Token) (count : Nat) :
    requireCount s.loose n.loose what (ts.map Token.loose) count =
      looseOutcome id (requireCount s n what ts count) := by
  simp only [requireCount, List.length_map, Node.kind_loose, Node.span_loose]
  split
  · rfl
  · exact s.fail_loose id _ _ []

theorem oneToken_loose (what : String) (ts : List Token) :
    oneToken s.loose n.loose what (ts.map Token.loose) =
      looseOutcome Token.loose (oneToken s n what ts) := by
  match ts with
  | [t] => rfl
  | [] | _ :: _ :: _ =>
    simp only [oneToken, List.map, List.length_cons, List.length_map, Node.kind_loose,
      Node.span_loose]
    exact s.fail_loose _ _ _ []

theorem twoTokens_loose (what : String) (ts : List Token) :
    twoTokens s.loose n.loose what (ts.map Token.loose) =
      looseOutcome (Prod.map Token.loose Token.loose) (twoTokens s n what ts) := by
  match ts with
  | [t, u] => rfl
  | [] | [_] | _ :: _ :: _ :: _ =>
    simp only [twoTokens, List.map, List.length_cons, List.length_map, Node.kind_loose,
      Node.span_loose]
    exact s.fail_loose _ _ _ []

theorem oneValue_loose : oneValue s.loose n.loose = looseOutcome Token.loose (oneValue s n) := by
  rw [oneValue, oneValue, Node.values_loose, oneToken_loose]

theorem twoValues_loose :
    twoValues s.loose n.loose =
      looseOutcome (Prod.map Token.loose Token.loose) (twoValues s n) := by
  rw [twoValues, twoValues, Node.values_loose, twoTokens_loose]

theorem twoFlags_loose :
    twoFlags s.loose n.loose =
      looseOutcome (Prod.map Token.loose Token.loose) (twoFlags s n) := by
  rw [twoFlags, twoFlags, Node.flags_loose, twoTokens_loose]

theorem noFlags_loose : noFlags s.loose n.loose = looseOutcome id (noFlags s n) := by
  rw [noFlags, noFlags, Node.flags_loose, requireCount_loose]

theorem noOperands_loose : noOperands s.loose n.loose = looseOutcome id (noOperands s n) := by
  rw [noOperands, noOperands, Node.values_loose]
  exact bind_loose (requireCount_loose s n _ _ _) fun _ => noFlags_loose s n

theorem convert_loose (a : Attribute) (t : Token) :
    s.loose.convert a t.loose n.loose.span = looseOutcome id (s.convert a t n.span) := by
  rw [Node.span_loose, s.convert_loose a t n.span]

theorem flag_loose (t : Token) : flag s.loose n.loose t.loose = looseOutcome id (flag s n t) := by
  simp only [flag, Node.span_loose, Token.spanOr_loose]
  refine bind_loose (s.convertAs_loose .bool none t n.span) fun v => ?_
  cases v with
  | bool b => rfl
  | _ => exact s.fail_loose id _ _ []

theorem comparison_loose (op : Comparison) (c : Capability) :
    comparison op c s.loose n.loose = looseOutcome id (comparison op c s n) := by
  refine bind_loose (theAttribute_loose s n c) fun a => ?_
  refine bind_loose (oneValue_loose s n) fun raw => ?_
  refine bind_loose (noFlags_loose s n) fun _ => ?_
  exact bind_loose (convert_loose s n a raw) fun v => rfl

theorem between_loose : between s.loose n.loose = looseOutcome id (between s n) := by
  refine bind_loose (theAttribute_loose s n .ordered) fun a => ?_
  refine bind_loose (twoValues_loose s n) fun (rawLower, rawUpper) => ?_
  refine bind_loose (noFlags_loose s n) fun _ => ?_
  refine bind_loose (convert_loose s n a rawLower) fun lower => ?_
  exact bind_loose (convert_loose s n a rawUpper) fun upper => rfl

theorem betweenVerbose_loose :
    betweenVerbose s.loose n.loose = looseOutcome id (betweenVerbose s n) := by
  refine bind_loose (theAttribute_loose s n .ordered) fun a => ?_
  refine bind_loose (twoValues_loose s n) fun (rawLower, rawUpper) => ?_
  refine bind_loose (twoFlags_loose s n) fun (lowerFlag, upperFlag) => ?_
  refine bind_loose (convert_loose s n a rawLower) fun lower => ?_
  refine bind_loose (flag_loose s n lowerFlag) fun lowerIn => ?_
  refine bind_loose (convert_loose s n a rawUpper) fun upper => ?_
  exact bind_loose (flag_loose s n upperFlag) fun upperIn => rfl

theorem convertAll_loose (a : Attribute) (ts : List Token) :
    convertAll s.loose n.loose a (ts.map Token.loose) = looseOutcome id (convertAll s n a ts) := by
  induction ts with
  | nil => rfl
  | cons t ts ih =>
    refine bind_loose (convert_loose s n a t) fun v => ?_
    exact bind_loose ih fun vs => rfl

theorem oneOf_loose : oneOf s.loose n.loose = looseOutcome id (oneOf s n) := by
  refine bind_loose (theAttribute_loose s n .unconstrained) fun a => ?_
  refine bind_loose (noFlags_loose s n) fun _ => ?_
  rw [Node.values_loose]
  exact bind_loose (convertAll_loose s n a n.values) fun vs => rfl

theorem textOperands_loose :
    textOperands s.loose n.loose =
      looseOutcome (Prod.map id (Prod.map Token.loose id)) (textOperands s n) := by
  refine bind_loose (theAttribute_loose s n .text) fun a => ?_
  refine bind_loose (oneValue_loose s n) fun raw => ?_
  refine bind_loose (noFlags_loose s n) fun _ => ?_
  refine bind_loose (convert_loose s n a raw) fun v => ?_
  cases v with
  | string text => rfl
  | _ =>
    simp only [Node.span_loose, Token.spanOr_loose]
    exact s.fail_loose _ _ _ []

theorem textTest_loose (op : TextTest) :
    textTest op s.loose n.loose = looseOutcome id (textTest op s n) :=
  bind_loose (textOperands_loose s n) fun _ => rfl

theorem matchesRegex_loose : matchesRegex s.loose n.loose = looseOutcome id (matchesRegex s n) := by
  refine bind_loose (textOperands_loose s n) fun (a, raw, text) => ?_
  simp only [Prod.map, id, Setting.compiles_loose, Node.span_loose, Token.spanOr_loose]
  split
  · rfl
  · exact s.fail_loose id _ _ []

theorem has_loose : has s.loose n.loose = looseOutcome id (has s n) := by
  refine bind_loose (theAttribute_loose s n .unconstrained) fun a => ?_
  exact bind_loose (noOperands_loose s n) fun _ => rfl

theorem checkObjectType_loose :
    checkObjectType s.loose n.loose = looseOutcome id (checkObjectType s n) := by
  simp only [checkObjectType, Node.objectType_loose]
  cases n.objectType with
  | none => exact missing_loose s n _ id
  | some t =>
    simp only [Option.map_some, Setting.objectType_loose, Token.text_loose, Node.span_loose,
      Token.spanOr_loose]
    split
    · rfl
    · exact s.fail_loose id _ _ []

theorem selection_loose (make : ObjectType → Query) :
    selection make s.loose n.loose = looseOutcome id (selection make s n) := by
  refine bind_loose (checkObjectType_loose s n) fun _ => ?_
  exact bind_loose (noOperands_loose s n) fun _ => rfl

theorem build_loose {k : NodeKind} {build : Builder} (hb : builder? k = some build) :
    build s.loose n.loose = looseOutcome id (build s n) := by
  cases k <;> cases hb
  case between => exact between_loose s n
  case betweenVerbose => exact betweenVerbose_loose s n
  case oneOf => exact oneOf_loose s n
  case matchesRegex => exact matchesRegex_loose s n
  case has => exact has_loose s n
  case all | none => exact selection_loose s n _
  case startsWith | endsWith | contains | isContainedIn => exact textTest_loose s n _
  all_goals exact comparison_loose s n _ _

end Leaf

section
variable (s : Setting) (n : Node) (qs : List (Spanned Query))

theorem reduceJunction_loose (op : Junction) :
    reduceJunction op s.loose n.loose (qs.map Spanned.loose) =
      looseOutcome id (reduceJunction op s n qs) := by
  cases qs with
  | nil =>
    simp only [reduceJunction, Node.kind_loose, Node.span_loose]
    exact s.fail_loose id _ _ []
  | cons q qs => simp [reduceJunction, looseOutcome, Spanned.loose]

theorem reduceNot_loose :
    reduceNot s.loose n.loose (qs.map Spanned.loose) = looseOutcome id (reduceNot s n qs) := by
  have fails :
      s.loose.fail (.notOfMany (qs.map Spanned.loose).length) n.loose.span
          (queryLabels (qs.map Spanned.loose)) =
        looseOutcome (id (α := Query))
          (s.fail (.notOfMany qs.length) n.span (queryLabels qs)) := by
    rw [List.length_map, queryLabels_loose, Node.span_loose]
    exact s.fail_loose id _ _ _
  match qs with
  | [q] => rfl
  | [] | _ :: _ :: _ => exact fails

/-- Default handlers make the same query of a loose node, or fail the same. -/
theorem Handler.make_loose {k : NodeKind} {h : Handler} (hk : default? k = some h) :
    h.make s.loose n.loose (qs.map Spanned.loose) = looseOutcome id (h.make s n qs) := by
  cases h with
  | leaf build =>
    have hb : Leaf.builder? k = some build := by
      cases k <;> cases hk <;> rfl
    exact Leaf.build_loose s n hb
  | scope reduce =>
    cases k <;> cases hk
    case scope.and.refl | scope.or.refl => exact reduceJunction_loose s n qs _
    case scope.not.refl => exact reduceNot_loose s n qs

end

/-! ## Events -/

namespace Scopes

variable (s : Scopes)

@[simp] theorem pending_loose (id : ScopeId) :
    s.loose.pending id = (s.pending id).map Spanned.loose := by
  simp only [pending, takeChildren, loose, Std.ExtTreeMap.getElem?_map]
  cases s.children[id]? <;> rfl

@[simp] theorem next_loose : s.loose.next = s.next := rfl

@[simp] theorem opened_loose : s.loose.opened = s.opened.loose := rfl

@[simp] theorem register_loose (id : ScopeId) (q : Spanned Query) :
    s.loose.register id q.loose = (s.register id q).loose := by
  refine Scopes.ext rfl (Std.ExtTreeMap.ext_getElem? fun id' => ?_)
  simp only [register, loose, Std.ExtTreeMap.getElem?_map, Std.ExtTreeMap.getElem?_alter]
  split
  · cases s.children[id]? <;> simp
  · rfl

@[simp] theorem cleared_loose (id : ScopeId) : s.loose.cleared id = (s.cleared id).loose := by
  refine Scopes.ext rfl (Std.ExtTreeMap.ext_getElem? fun id' => ?_)
  simp only [cleared, takeChildren, loose, Std.ExtTreeMap.getElem?_map,
    Std.ExtTreeMap.getElem?_erase]
  split <;> rfl

end Scopes

/-- Every handler in use is a default handler, be it for another kind than its own. -/
def Handlers.Stock (hs : Handlers) : Prop :=
  ∀ k h, hs.get? k = some h → ∃ k', Handler.default? k' = some h

theorem Node.rejectNested_loose (s : Setting) (n : Node) :
    n.loose.rejectNested s.loose = looseOutcome id (n.rejectNested s) := by
  obtain ⟨kind, span, name, values, flags, type, terms, children⟩ := n
  cases children with
  | nil => rfl
  | cons c cs =>
    simp only [rejectNested, loose, looseAll, List.length_cons, length_looseAll, kind_loose,
      span_loose]
    split
    · rfl
    · exact s.fail_loose id _ span [⟨c.span, _⟩]

@[simp] theorem isDescending_loose (direction : Option Token) :
    isDescending (direction.map Token.loose) = isDescending direction := by
  cases direction <;> rfl

theorem Setting.readTerm_loose (s : Setting) (span : Span) (t : OrderTerm) :
    s.loose.readTerm {} t.loose = looseOutcome id (s.readTerm span t) := by
  rw [readTerm, readTerm, OrderTerm.loose, s.resolve_loose t.attributeName .ordered span,
    isDescending_loose]
  cases s.resolve t.attributeName .ordered span <;> rfl

namespace Progress

/-- The end of an event without places. -/
def looseResult :
    EStateM.Result Diagnostic Progress Unit → EStateM.Result Diagnostic Progress Unit
  | .ok u p => .ok u p.loose
  | .error d p => .error d.loose p.loose

theorem looseResult_bind {x y : Event Unit} {f g : Unit → Event Unit} {p : Progress}
    (hx : y p.loose = looseResult (x p)) (hf : ∀ p', g () p'.loose = looseResult (f () p')) :
    (y >>= g) p.loose = looseResult ((x >>= f) p) := by
  cases h : x p with
  | ok u p' =>
    rw [h] at hx
    rw [Event.bind_of_ok h, Event.bind_of_ok hx]
    exact hf p'
  | error d p' =>
    rw [h] at hx
    rw [Event.bind_of_error h, Event.bind_of_error hx]
    rfl

section
variable (p : Progress)

@[simp] theorem scopes_loose : p.loose.scopes = p.scopes.loose := rfl
@[simp] theorem coverage_loose : p.loose.coverage = p.coverage := rfl

theorem entered_loose : p.loose.entered = p.entered.loose := by simp [entered, loose]

theorem encounter_loose : p.loose.encounter = p.encounter.loose := rfl

theorem ordered_loose (os : List Order) : p.loose.ordered os = (p.ordered os).loose := rfl

theorem drained_loose (id : ScopeId) (h : Handler) :
    p.loose.drained id h = (p.drained id h).loose := by
  cases h <;> simp [drained, loose]

theorem convert_loose (scope : ScopeId) (q : Spanned Query) :
    p.loose.convert scope q.loose = (p.convert scope q).loose := by
  simp [convert, loose]

end

section
variable (s : Setting)

theorem checkCoverage_loose (n : Node) (p : Progress) :
    checkCoverage s.loose n.loose p.loose = looseResult (checkCoverage s n p) := by
  simp only [checkCoverage, coverage_loose, Node.kind_loose, Node.span_loose]
  split <;> rfl

theorem collect_loose (span : Span) (ts : List OrderTerm) (p : Progress) :
    collect s.loose {} (ts.map OrderTerm.loose) p.loose = looseResult (collect s span ts p) := by
  induction ts generalizing p with
  | nil => rfl
  | cons t ts ih =>
    have term := s.readTerm_loose span t
    rw [List.map_cons]
    cases h : s.readTerm span t with
    | ok o =>
      rw [h] at term
      rw [collect_cons_of_ok h, collect_cons_of_ok term, ordered_loose]
      exact ih (p.ordered [o])
    | error d =>
      rw [h] at term
      rw [collect_cons_of_error h, collect_cons_of_error term]
      rfl

variable {hs : Handlers}

theorem convertNode_loose (stock : hs.Stock) (x : NodeExit) (p : Progress) :
    convertNode s.loose hs x.loose p.loose = looseResult (convertNode s hs x p) := by
  have kind : x.loose.node.kind = x.node.kind := Node.kind_loose x.node
  cases hk : hs.get? x.node.kind with
  | none =>
    rw [convertNode_of_none hk, convertNode_of_none (kind ▸ hk), encounter_loose]
    exact checkCoverage_loose s x.node p.encounter
  | some h =>
    obtain ⟨k, known⟩ := stock _ h hk
    have made := Handler.make_loose s x.node (p.scopes.pending x.id) known
    rw [← Scopes.pending_loose] at made
    cases hm : h.make s x.node (p.scopes.pending x.id) with
    | error d =>
      rw [hm] at made
      rw [convertNode_of_refused hk hm, convertNode_of_refused (kind ▸ hk) made,
        encounter_loose, drained_loose]
      rfl
    | ok q =>
      rw [hm] at made
      have registered :
          (p.loose.encounter.drained x.id h).convert x.scope ⟨q, x.loose.node.span⟩ =
            ((p.encounter.drained x.id h).convert x.scope ⟨q, x.node.span⟩).loose := by
        rw [encounter_loose, drained_loose, ← convert_loose, NodeExit.loose, Node.span_loose]
        rfl
      rw [convertNode_of_made hk hm, convertNode_of_made (kind ▸ hk) made]
      exact registered ▸ checkCoverage_loose s x.node _

theorem exitNode_loose (stock : hs.Stock) (x : NodeExit) (p : Progress) :
    exitNode s.loose hs x.loose p.loose = looseResult (exitNode s hs x p) := by
  have nested := Node.rejectNested_loose s x.node
  cases hn : x.node.rejectNested s with
  | error d =>
    rw [hn] at nested
    rw [exitNode_of_nested hn, exitNode_of_nested nested]
    rfl
  | ok =>
    rw [hn] at nested
    rw [exitNode_of_plain hn, exitNode_of_plain nested]
    have kind : x.loose.node.kind = x.node.kind := Node.kind_loose x.node
    rw [kind]
    split
    · exact convertNode_loose s stock x p
    · rw [NodeExit.loose, Node.span_loose, Node.orderTerms_loose]
      exact collect_loose s x.node.span x.node.orderTerms p

mutual

theorem walk_loose (stock : hs.Stock) (n : Node) (scope : ScopeId) (p : Progress) :
    walk s.loose hs n.loose scope p.loose = looseResult (walk s hs n scope p) := by
  match n with
  | ⟨kind, span, name, values, flags, type, terms, children⟩ =>
    generalize hn : (⟨kind, span, name, values, flags, type, terms, children⟩ : Node) = n
    have hc : n.children = children := by rw [← hn]
    have nested := Node.rejectNested_loose s n
    cases plain : n.rejectNested s with
    | error d =>
      rw [plain] at nested
      rw [walk_of_nested plain, walk_of_nested nested]
      rfl
    | ok =>
      by_cases hk : n.kind.isScope
      · have hk' : n.loose.kind.isScope := by rwa [Node.kind_loose]
        rw [walk_of_scope hk, walk_of_scope hk', entered_loose, scopes_loose, Scopes.next_loose,
          Node.children_loose, hc]
        -- Scopes are told apart by their number, so the loose walk opens the same one.
        refine looseResult_bind (walkAll_loose stock children p.scopes.next p.entered) fun p' => ?_
        exact exitNode_loose s stock ⟨n, scope, p.scopes.next⟩ p'
      · have hk' : ¬ n.loose.kind.isScope := by rwa [Node.kind_loose]
        have childless := (Node.rejectNested_eq_ok.1 plain).resolve_left hk
        have childless' : n.loose.children = [] := by simp [childless, Node.looseAll]
        rw [walk_of_leaf hk childless, walk_of_leaf hk' childless']
        exact exitNode_loose s stock ⟨n, scope, scope⟩ p

theorem walkAll_loose (stock : hs.Stock) (ns : List Node) (scope : ScopeId) (p : Progress) :
    walkAll s.loose hs (Node.looseAll ns) scope p.loose =
      looseResult (walkAll s hs ns scope p) := by
  match ns with
  | [] => rfl
  | n :: ns =>
    rw [Node.looseAll, walkAll, walkAll]
    refine looseResult_bind (walk_loose stock n scope p) fun p' => ?_
    exact walkAll_loose stock ns scope p'

end

end

theorem finish_loose (p : Progress) (source : Option Source) :
    p.loose.finish none = (p.finish source).loose := by
  simp [finish_eq, Translation.loose, loose]

end Progress

/-! ## Whole trees -/

namespace Translation

theorem hull_loose (qs : List (Spanned Query)) : hull (qs.map Spanned.loose) = {} := by
  simp only [hull, List.head?_map, List.getLast?_map]
  cases qs.head? <;> cases qs.getLast? <;> rfl

theorem arityError_loose (t : Translation) (qs : List (Spanned Query)) :
    t.loose.arityError (qs.map Spanned.loose) = (t.arityError qs).loose := by
  rw [arityError, arityError, hull_loose, List.length_map, queryLabels_loose]
  rfl

theorem result_loose (t : Translation) : t.loose.result = looseOutcome id t.result := by
  obtain ⟨roots, orders, encountered, converted, source⟩ := t
  have fails := arityError_loose ⟨[], orders, encountered, converted, source⟩ roots
  match roots with
  | [q] => rfl
  | [] | _ :: _ :: _ => exact congrArg Except.error fails

end Translation

namespace Translator

theorem translation_loose (t : Translator) (stock : t.handlers.Stock) (tree : ParseTree) :
    t.translation tree.loose = looseOutcome Translation.loose (t.translation tree) := by
  have walked : Progress.walkTree (t.setting (sourceOf tree.loose)) t.handlers tree.loose {} =
      Progress.looseResult (Progress.walkTree (t.setting (sourceOf tree)) t.handlers tree {}) :=
    Progress.walkAll_loose (t.setting (sourceOf tree)) stock tree.nodes .root {}
  simp only [translation, walked]
  cases Progress.walkTree (t.setting (sourceOf tree)) t.handlers tree {} with
  | ok u p => exact congrArg Except.ok (p.finish_loose (sourceOf tree))
  | error d p => rfl

theorem translate_loose (t : Translator) (stock : t.handlers.Stock) (tree : ParseTree) :
    t.translate tree.loose = looseOutcome id (t.translate tree) :=
  bind_loose (translation_loose t stock tree) fun done => done.result_loose

end Translator

/-! ## Trees that differ in places -/

/-- The diagnostics say the same, wherever they point. -/
structure Diagnostic.Alike (d d' : Diagnostic) : Prop where
  kind : d.kind = d'.kind
  message : d.message = d'.message
  help : d.help = d'.help
  cause : d.cause = d'.cause
  labels : d.related.map (·.text) = d'.related.map (·.text)

theorem Diagnostic.alike_of_loose_eq {d d' : Diagnostic} (h : d.loose = d'.loose) : d.Alike d' := by
  simp only [loose, mk.injEq] at h
  obtain ⟨kind, message, -, -, help, related, cause⟩ := h
  refine ⟨kind, message, help, cause, ?_⟩
  have texts := congrArg (List.map Label.text) related
  simpa [Label.loose, Function.comp_def] using texts

/-- The translations hold the same queries, orders and counters. -/
structure Translation.Alike (t t' : Translation) : Prop where
  queries : t.roots.map (·.value) = t'.roots.map (·.value)
  orders : t.orders = t'.orders
  encountered : t.encountered = t'.encountered
  converted : t.converted = t'.converted

theorem Translation.alike_of_loose_eq {t t' : Translation} (h : t.loose = t'.loose) :
    t.Alike t' := by
  simp only [loose, mk.injEq] at h
  obtain ⟨roots, orders, encountered, converted, -⟩ := h
  refine ⟨?_, orders, encountered, converted⟩
  have queries := congrArg (List.map Spanned.value) roots
  simpa [Spanned.loose, Function.comp_def] using queries

/-- Both outcomes are results that are the same, or failures that say the same. -/
inductive Agree {α : Type} (same : α → α → Prop) :
    Except Diagnostic α → Except Diagnostic α → Prop
  | ok {a b : α} (result : same a b) : Agree same (.ok a) (.ok b)
  | error {d d' : Diagnostic} (failure : d.Alike d') : Agree same (.error d) (.error d')

section
variable {α β : Type} {same : α → α → Prop} {x y : Except Diagnostic α}

theorem Agree.alike {d d' : Diagnostic} (h : Agree same x y) (hx : x = .error d)
    (hy : y = .error d') : d.Alike d' := by
  subst hx hy
  cases h with
  | error failure => exact failure

theorem agree_of_looseOutcome_eq {strip : α → β}
    (h : looseOutcome strip x = looseOutcome strip y)
    (hs : ∀ a b, strip a = strip b → same a b) : Agree same x y := by
  cases x with
  | ok a =>
    cases y with
    | ok b => exact .ok (hs a b (Except.ok.inj h))
    | error d => cases h
  | error d =>
    cases y with
    | ok b => cases h
    | error d' => exact .error (Diagnostic.alike_of_loose_eq (Except.error.inj h))

end

namespace Handlers

theorem stock_default : default.Stock := fun k _ hk => ⟨k, hk⟩

theorem Stock.register {hs : Handlers} (stock : hs.Stock) (k : NodeKind) {k' : NodeKind}
    {h : Handler} (known : Handler.default? k' = some h) : (hs.register k h).Stock := by
  intro l h' hl
  rw [get?_register] at hl
  split at hl
  · cases hl
    exact ⟨k', known⟩
  · exact stock l h' hl

theorem Stock.remove {hs : Handlers} (stock : hs.Stock) (k : NodeKind) : (hs.remove k).Stock := by
  intro l h hl
  rw [get?_remove] at hl
  split at hl
  · cases hl
  · exact stock l h hl

end Handlers

namespace Translator

/-- Trees that differ only in their name, their text and the spans in them have the same
translation but for the spans in it, with the same counters, and the same query and options;
or they fail alike, with the same help and labels of the same texts. -/
theorem translate_of_loose_eq (t : Translator) (stock : t.handlers.Stock)
    (tree tree' : ParseTree) (same : tree.loose = tree'.loose) :
    Agree Translation.Alike (t.translation tree) (t.translation tree') ∧
      Agree (· = ·) (t.translate tree) (t.translate tree') := by
  have translation : looseOutcome Translation.loose (t.translation tree) =
      looseOutcome Translation.loose (t.translation tree') := by
    rw [← translation_loose t stock, ← translation_loose t stock, same]
  have translate : looseOutcome id (t.translate tree) = looseOutcome id (t.translate tree') := by
    rw [← translate_loose t stock, ← translate_loose t stock, same]
  constructor
  · exact agree_of_looseOutcome_eq translation fun _ _ => Translation.alike_of_loose_eq
  · exact agree_of_looseOutcome_eq translate fun _ _ h => h

/-- A negation of two queries, without places. -/
def looseTree : ParseTree where
  nodes := [.scope .not [.leaf .unknown "name", .leaf .has "age"]]

/-- The same negation as it stands in a text. -/
def placedTree : ParseTree where
  name := "filter"
  source := "not(some(name), has(age))"
  nodes := [{ kind := .not, span := ⟨0, 25⟩, children := [
    { kind := .unknown, span := ⟨4, 14⟩, attributeName := some ⟨"name", ⟨9, 13⟩⟩ },
    { kind := .has, span := ⟨16, 24⟩, attributeName := some ⟨"age", ⟨20, 23⟩⟩ }] }]

/-- Unknown constructs are converted as `has` is, and ranges not at all. -/
theorem translate_of_loose_eq_negation :
    let t : Translator :=
      { ofText ⟨"person"⟩ with
        handlers := (Handlers.default.register .unknown (.leaf Leaf.has)).remove .between }
    ∃ d d', t.translate looseTree = .error d ∧ t.translate placedTree = .error d' ∧
      d.span ≠ d'.span ∧ d.labels.length ≠ d'.labels.length ∧ d.Alike d' := by
  intro t
  have known : Handler.default? .has = some (.leaf Leaf.has) := rfl
  have stock := (Handlers.stock_default.register .unknown known).remove .between
  have agree := (translate_of_loose_eq t stock looseTree placedTree rfl).2
  exact ⟨_, _, rfl, rfl, by decide, by decide, agree.alike rfl rfl⟩

end Translator

end FilterQuery
