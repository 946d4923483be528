import FilterQuery.Proofs.Acceptance
import FilterQuery.Translation.Handler

/-!
# What leaf nodes are checked for

A leaf node is held against a list of checks that its kind and its tokens determine: what
it speaks about, how many tokens stand in its slots, and then each token in turn. The node
makes its query when every check passes, and otherwise fails as the first of them that does
not. A check says which token it blames, if any.
-/
namespace FilterQuery

/-- Where a failure inside a node points: at a token, or else at the node. -/
def Node.place (n : Node) (t : Option Token) : Span := t.elim n.span (·.spanOr n.span)

namespace Leaf

/-- One thing that a leaf node is checked for. -/
inductive Check
  /-- The node names an attribute with the capability. -/
  | attributeName (c : Capability)
  /-- The node names the object type in use. -/
  | objectType
  | values (count : Nat)
  | flags (count : Nat)
  /-- The token is a literal of the type of the node's attribute. -/
  | value (c : Capability) (t : Token)
  | flag (t : Token)
  /-- The literal is a text. -/
  | text (t : Token)
  /-- The text is a regular expression. -/
  | pattern (t : Token)

/-- The attribute of the node, if its name resolves with the capability. -/
def attribute? (s : Setting) (n : Node) (c : Capability) : Option Attribute :=
  n.attributeName.bind fun t => (s.resolver t.text c).toOption

/-- The literal of a string predicate with the attribute that it is read for. -/
def operand? (s : Setting) (n : Node) (t : Token) : Option (Attribute × Value) :=
  (attribute? s n .text).bind fun a =>
    (s.converter a.valueType t.text).toOption.map fun v => (a, v)

/-- How a slot fails that should hold so many tokens. -/
def countFailure? (n : Node) (what : String) (ts : List Token) (count : Nat) : Option Failure :=
  if ts.length = count then none else some (.wrongCount n.kind count what ts.length)

namespace Check

/-- How the check fails, on the understanding that those before it passed. -/
def failure? (s : Setting) (n : Node) : Check → Option Failure
  | attributeName c =>
    match n.attributeName with
    | none => some (.missing n.kind "an attribute name")
    | some t =>
      match s.resolver t.text c with
      | .ok _ => none
      | .error e => some (.unresolved e)
  | objectType =>
    match n.objectType with
    | none => some (.missing n.kind "an object type")
    | some t =>
      if t.text = s.objectType.name then none
      else some (.otherObjectType t.text s.objectType.name)
  | values count => countFailure? n "value" n.values count
  | flags count => countFailure? n "inclusivity flag" n.flags count
  | value c t =>
    match attribute? s n c with
    | none => none
    | some a =>
      match s.converter a.valueType t.text with
      | .ok _ => none
      | .error e => some (.badLiteral t.text a.valueType (some a.name) e)
  | flag t =>
    match s.converter .bool t.text with
    | .ok (.bool _) => none
    | .ok _ => some (.badFlag t.text)
    | .error e => some (.badLiteral t.text .bool none e)
  | text t =>
    match operand? s n t with
    | none | some (_, .string _) => none
    | some (a, v) => some (.notText a.name v)
  | pattern t =>
    match operand? s n t with
    | some (_, .string x) => if s.compiles x then none else some (.badPattern x)
    | _ => none

/-- The token that the check is about. -/
def token? (n : Node) : Check → Option Token
  | attributeName _ => n.attributeName
  | objectType => n.objectType
  | values _ | flags _ => none
  | value _ t | flag t | text t | pattern t => some t

/-- The failure of the check as it is reported. -/
def fault? (s : Setting) (n : Node) (c : Check) : Option Diagnostic :=
  (c.failure? s n).map fun f => f.report s.source (n.place (c.token? n)) []

end Check

/-- The checks of an attribute with so many literals of its type. -/
def literalChecks (n : Node) (c : Capability) (count : Nat) : List Check :=
  .attributeName c :: .values count :: .flags 0 :: n.values.map (.value c)

/-- The checks of an attribute with one text. -/
def textChecks (n : Node) : List Check :=
  .attributeName .text :: .values 1 :: .flags 0 ::
    n.values.flatMap fun t => [.value .text t, .text t]

/-- What a leaf node is checked for, in this order. -/
def checks (n : Node) : List Check :=
  match n.kind with
  | .equal => literalChecks n .unconstrained 1
  | .lessThan | .lessThanOrEqual | .greaterThan | .greaterThanOrEqual =>
    literalChecks n .ordered 1
  | .between => literalChecks n .ordered 2
  | .betweenVerbose =>
    .attributeName .ordered :: .values 2 :: .flags 2 ::
      (n.values.zip n.flags).flatMap fun (t, f) => [.value .ordered t, .flag f]
  | .oneOf => .attributeName .unconstrained :: .flags 0 :: n.values.map (.value .unconstrained)
  | .startsWith | .endsWith | .contains | .isContainedIn => textChecks n
  | .matchesRegex => textChecks n ++ n.values.map .pattern
  | .has => [.attributeName .unconstrained, .values 0, .flags 0]
  | .all | .none => [.objectType, .values 0, .flags 0]
  | .and | .or | .not | .orderBy | .unknown => []

/-! ## One check after the other -/

/-- The failure of a computation, if it fails. -/
def refusal? {α : Type} : Except Diagnostic α → Option Diagnostic
  | .ok _ => none
  | .error d => some d

section
variable {s : Setting} {n : Node} {α β : Type}

theorem refusal?_eq_some {x : Except Diagnostic α} {d : Diagnostic} :
    refusal? x = some d ↔ x = .error d := by
  cases x <;> simp [refusal?]

theorem refusal?_eq_none {x : Except Diagnostic α} : refusal? x = none ↔ ∃ a, x = .ok a := by
  cases x <;> simp [refusal?]

variable (s n) in
/-- The computation fails as the first of the checks does that fails. -/
def Follows (x : Except Diagnostic α) (cs : List Check) : Prop :=
  refusal? x = cs.findSome? (Check.fault? s n)

theorem Follows.pure (a : α) : Follows s n (.ok a) [] := rfl

theorem Follows.append {x : Except Diagnostic α} {f : α → Except Diagnostic β}
    {cs cs' : List Check} (first : Follows s n x cs)
    (rest : ∀ a, x = .ok a → Follows s n (f a) cs') : Follows s n (x >>= f) (cs ++ cs') := by
  unfold Follows at *
  rw [List.findSome?_append, ← first]
  cases x with
  | error d => rfl
  | ok a => exact rest a rfl

/-- The first check is what the first step does, and the others are left to what follows. -/
theorem Follows.bind {x : Except Diagnostic α} {f : α → Except Diagnostic β} {c : Check}
    {cs : List Check} (first : refusal? x = c.fault? s n)
    (rest : ∀ a, x = .ok a → Follows s n (f a) cs) : Follows s n (x >>= f) (c :: cs) := by
  have single : Follows s n x [c] := by
    rw [Follows, first, List.findSome?_singleton]
  exact single.append rest

theorem Follows.map {x : Except Diagnostic α} {cs : List Check} (h : Follows s n x cs)
    (f : α → β) : Follows s n (x >>= fun a => .ok (f a)) cs := by
  rw [← List.append_nil cs]
  exact h.append fun a _ => .pure (f a)

theorem refusal?_theAttribute (c : Capability) :
    refusal? (theAttribute s n c) = (Check.attributeName c).fault? s n := by
  simp only [theAttribute, Check.fault?, Check.failure?, Check.token?]
  cases n.attributeName with
  | none => rfl
  | some t =>
    simp only [Setting.resolve]
    cases s.resolver t.text c <;> rfl

theorem refusal?_checkObjectType :
    refusal? (checkObjectType s n) = Check.objectType.fault? s n := by
  simp only [checkObjectType, Check.fault?, Check.failure?, Check.token?]
  cases n.objectType with
  | none => rfl
  | some t =>
    simp only
    split <;> rfl

/-! ### Counts -/

/-- The failure of a slot as it is reported. -/
def countFault? (s : Setting) (n : Node) (what : String) (ts : List Token) (count : Nat) :
    Option Diagnostic :=
  (countFailure? n what ts count).map fun f => f.report s.source n.span []

theorem refusal?_requireCount (what : String) (ts : List Token) (count : Nat) :
    refusal? (requireCount s n what ts count) = countFault? s n what ts count := by
  unfold requireCount countFault? countFailure?
  split <;> rfl

theorem refusal?_oneToken (what : String) (ts : List Token) :
    refusal? (oneToken s n what ts) = countFault? s n what ts 1 := by
  match ts with
  | [] => rfl
  | [_] => rfl
  | _ :: _ :: _ => simp [countFault?, countFailure?, oneToken, refusal?, Setting.fail]

theorem refusal?_twoTokens (what : String) (ts : List Token) :
    refusal? (twoTokens s n what ts) = countFault? s n what ts 2 := by
  match ts with
  | [] => rfl
  | [_] => rfl
  | [_, _] => rfl
  | _ :: _ :: _ :: _ => simp [countFault?, countFailure?, twoTokens, refusal?, Setting.fail]

theorem refusal?_oneValue : refusal? (oneValue s n) = (Check.values 1).fault? s n :=
  refusal?_oneToken "value" n.values

theorem refusal?_twoValues : refusal? (twoValues s n) = (Check.values 2).fault? s n :=
  refusal?_twoTokens "value" n.values

theorem refusal?_twoFlags : refusal? (twoFlags s n) = (Check.flags 2).fault? s n :=
  refusal?_twoTokens "inclusivity flag" n.flags

theorem refusal?_noFlags : refusal? (noFlags s n) = (Check.flags 0).fault? s n :=
  refusal?_requireCount "inclusivity flag" n.flags 0

/-! ### Literals -/

theorem attribute?_of_resolves {c : Capability} {a : Attribute} (h : Resolves s n c a) :
    attribute? s n c = some a := by
  obtain ⟨t, name, resolved⟩ := h
  simp [attribute?, name, resolved, Except.toOption]

theorem refusal?_convert {c : Capability} {a : Attribute} (h : Resolves s n c a) (t : Token) :
    refusal? (s.convert a t n.span) = (Check.value c t).fault? s n := by
  simp only [Check.fault?, Check.failure?, attribute?_of_resolves h, Setting.convert,
    Setting.convertAs]
  cases s.converter a.valueType t.text <;> rfl

theorem refusal?_flag (t : Token) : refusal? (flag s n t) = (Check.flag t).fault? s n := by
  simp only [Check.fault?, Check.failure?, flag, Setting.convertAs]
  cases s.converter .bool t.text with
  | error e => rfl
  | ok v => cases v <;> rfl

theorem follows_convertAll {c : Capability} {a : Attribute} (h : Resolves s n c a)
    (ts : List Token) : Follows s n (convertAll s n a ts) (ts.map (.value c)) := by
  induction ts with
  | nil => exact .pure []
  | cons t ts ih => exact .bind (refusal?_convert h t) fun v _ => ih.map _

theorem operand?_of_reads {a : Attribute} {t : Token} {v : Value} (h : Resolves s n .text a)
    (value : Reads s a t v) : operand? s n t = some (a, v) := by
  unfold Reads at value
  simp [operand?, attribute?_of_resolves h, value, Except.toOption]

/-! ### Builders -/

theorem follows_comparison (op : Comparison) (c : Capability) :
    Follows s n (comparison op c s n) (literalChecks n c 1) := by
  refine .bind (refusal?_theAttribute c) fun a ha => ?_
  refine .bind refusal?_oneValue fun t ht => ?_
  refine .bind refusal?_noFlags fun _ _ => ?_
  have resolved := theAttribute_eq_ok.1 ha
  rw [oneToken_eq_ok.1 ht]
  exact .bind (refusal?_convert resolved t) fun v _ => .pure _

theorem follows_between : Follows s n (between s n) (literalChecks n .ordered 2) := by
  refine .bind (refusal?_theAttribute .ordered) fun a ha => ?_
  refine .bind refusal?_twoValues fun (t, u) htu => ?_
  refine .bind refusal?_noFlags fun _ _ => ?_
  have resolved := theAttribute_eq_ok.1 ha
  rw [twoTokens_eq_ok.1 htu]
  refine .bind (refusal?_convert resolved t) fun lower _ => ?_
  exact .bind (refusal?_convert resolved u) fun upper _ => .pure _

theorem follows_betweenVerbose (hk : n.kind = .betweenVerbose) :
    Follows s n (betweenVerbose s n) (checks n) := by
  rw [checks, hk]
  refine .bind (refusal?_theAttribute .ordered) fun a ha => ?_
  refine .bind refusal?_twoValues fun (t, u) htu => ?_
  refine .bind refusal?_twoFlags fun (f, g) hfg => ?_
  have resolved := theAttribute_eq_ok.1 ha
  rw [twoTokens_eq_ok.1 htu, twoTokens_eq_ok.1 hfg]
  refine .bind (refusal?_convert resolved t) fun lower _ => ?_
  refine .bind (refusal?_flag f) fun lowerIn _ => ?_
  refine .bind (refusal?_convert resolved u) fun upper _ => ?_
  exact .bind (refusal?_flag g) fun upperIn _ => .pure _

theorem follows_oneOf :
    Follows s n (oneOf s n)
      (.attributeName .unconstrained :: .flags 0 :: n.values.map (.value .unconstrained)) := by
  refine .bind (refusal?_theAttribute .unconstrained) fun a ha => ?_
  refine .bind refusal?_noFlags fun _ _ => ?_
  exact (follows_convertAll (theAttribute_eq_ok.1 ha) n.values).map _

theorem follows_textOperands : Follows s n (textOperands s n) (textChecks n) := by
  refine .bind (refusal?_theAttribute .text) fun a ha => ?_
  refine .bind refusal?_oneValue fun t ht => ?_
  refine .bind refusal?_noFlags fun _ _ => ?_
  have resolved := theAttribute_eq_ok.1 ha
  rw [oneToken_eq_ok.1 ht]
  refine .bind (refusal?_convert resolved t) fun v hv => ?_
  change Follows s n _ [.text t]
  rw [Follows, List.findSome?_singleton]
  simp only [Check.fault?, Check.failure?,
    operand?_of_reads resolved (Setting.convert_eq_ok.1 hv)]
  cases v <;> rfl

theorem follows_matchesRegex :
    Follows s n (matchesRegex s n) (textChecks n ++ n.values.map .pattern) := by
  refine follows_textOperands.append fun (a, t, x) h => ?_
  obtain ⟨resolved, values, -, value⟩ := textOperands_eq_ok.1 h
  rw [values, List.map_singleton, Follows, List.findSome?_singleton]
  simp only [Check.fault?, Check.failure?, operand?_of_reads resolved value]
  split <;> rfl

theorem follows_noOperands : Follows s n (noOperands s n) [.values 0, .flags 0] := by
  refine .bind (refusal?_requireCount "value" n.values 0) fun _ _ => ?_
  rw [Follows, refusal?_noFlags, List.findSome?_singleton]

theorem follows_has :
    Follows s n (has s n) [.attributeName .unconstrained, .values 0, .flags 0] :=
  .bind (refusal?_theAttribute .unconstrained) fun _ _ => follows_noOperands.map _

theorem follows_selection (make : ObjectType → Query) :
    Follows s n (selection make s n) [.objectType, .values 0, .flags 0] :=
  .bind refusal?_checkObjectType fun _ _ => follows_noOperands.map _

theorem follows_build {build : Builder} (hb : builder? n.kind = some build) :
    Follows s n (build s n) (checks n) := by
  cases hk : n.kind <;> rw [hk] at hb <;> cases hb
  case betweenVerbose => exact follows_betweenVerbose hk
  all_goals rw [checks, hk]
  case equal | lessThan | lessThanOrEqual | greaterThan | greaterThanOrEqual =>
    exact follows_comparison ..
  case between => exact follows_between
  case oneOf => exact follows_oneOf
  case startsWith | endsWith | contains | isContainedIn => exact follows_textOperands.map _
  case matchesRegex => exact follows_matchesRegex
  case has => exact follows_has
  case all | none => exact follows_selection ..

theorem build_eq_ok {build : Builder} (hb : builder? n.kind = some build) {q : Query} :
    build s n = .ok q ↔ Accepts s n n.kind q := by
  constructor
  · exact accepts_of_builder hb
  · intro h
    obtain ⟨build', hb', made⟩ := exists_builder_of_accepts h
    obtain rfl : build' = build := Option.some.inj (hb'.symm.trans hb)
    exact made

theorem build_eq_error {build : Builder} (hb : builder? n.kind = some build) {d : Diagnostic} :
    build s n = .error d ↔
      ∃ before c after, checks n = before ++ c :: after ∧
        (∀ b ∈ before, b.fault? s n = none) ∧ c.fault? s n = some d := by
  have follows : refusal? (build s n) = _ := follows_build hb
  rw [← refusal?_eq_some, follows, List.findSome?_eq_some_iff]
  constructor
  · rintro ⟨before, c, after, order, fault, passed⟩
    exact ⟨before, c, after, order, passed, fault⟩
  · rintro ⟨before, c, after, order, passed, fault⟩
    exact ⟨before, c, after, order, fault, passed⟩

end

theorem builder?_of_default {k : NodeKind} {build : Builder}
    (h : Handlers.default.get? k = some (.leaf build)) : builder? k = some build := by
  cases k <;> cases h <;> rfl

theorem isScope_of_default {k : NodeKind} {reduce : Reducer}
    (h : Handlers.default.get? k = some (.scope reduce)) : k.isScope := by
  cases k <;> cases h <;> rfl

theorem eq_of_default_eq_none {k : NodeKind} (h : Handlers.default.get? k = none) :
    k = .orderBy ∨ k = .unknown := by
  cases k <;> cases h
  case orderBy => exact .inl rfl
  case unknown => exact .inr rfl

/-- The handler of a leaf makes exactly the query of its kind that the node says. It does so
when every check passes, and fails with the failure of the first check that does not. Only
boolean scopes, ordering clauses and unknown constructs have no such handler. -/
theorem handler_spec (s : Setting) (n : Node) :
    match Handlers.default.get? n.kind with
    | some (.leaf build) =>
      (∀ q, build s n = .ok q ↔ Accepts s n n.kind q) ∧
        ((∃ q, build s n = .ok q) ↔ ∀ c ∈ checks n, c.fault? s n = none) ∧
        ∀ d, build s n = .error d ↔
          ∃ before c after, checks n = before ++ c :: after ∧
            (∀ b ∈ before, b.fault? s n = none) ∧ c.fault? s n = some d
    | some (.scope _) => n.kind.isScope
    | none => n.kind = .orderBy ∨ n.kind = .unknown := by
  cases h : Handlers.default.get? n.kind with
  | none => exact eq_of_default_eq_none h
  | some handler =>
    cases handler with
    | scope reduce => exact isScope_of_default h
    | leaf build =>
      have hb := builder?_of_default h
      have follows : refusal? (build s n) = _ := follows_build hb
      refine ⟨fun q => build_eq_ok hb, ?_, fun d => build_eq_error hb⟩
      rw [← refusal?_eq_none, follows, List.findSome?_eq_none_iff]

end Leaf

end FilterQuery
