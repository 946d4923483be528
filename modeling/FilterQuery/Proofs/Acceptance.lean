import FilterQuery.Translation.Leaf
import Mathlib.Data.List.Forall2

/-!
# What leaf builders accept

For each builder, the exact condition under which it makes a query, and the query that
it makes. The conditions speak of the node's tokens and of the collaborators only; the
source that diagnostics point into plays no part in them.
-/
namespace FilterQuery

theorem bind_eq_ok {ε α β : Type} {x : Except ε α} {f : α → Except ε β} {b : β} :
    x >>= f = .ok b ↔ ∃ a, x = .ok a ∧ f a = .ok b := by
  cases x with
  | error e => simp [bind, Except.bind]
  | ok a => simp [bind, Except.bind]

theorem mapError_eq_ok {ε ε' α : Type} {f : ε → ε'} {x : Except ε α} {a : α} :
    x.mapError f = .ok a ↔ x = .ok a := by
  cases x <;> simp [Except.mapError]

theorem bind_eq_error {ε α β : Type} {x : Except ε α} {f : α → Except ε β} {e : ε} :
    x >>= f = .error e ↔ x = .error e ∨ ∃ a, x = .ok a ∧ f a = .error e := by
  cases x with
  | error e => simp [bind, Except.bind]
  | ok a => simp [bind, Except.bind]

namespace Setting

variable {s : Setting} {t : Token} {fallback : Span}

@[simp] theorem fail_ne_ok {α : Type} (f : Failure) (span : Span) (related : List Label) (a : α) :
    s.fail f span related ≠ .ok a := by simp [fail]

theorem resolve_eq_ok {c : Capability} {a : Attribute} :
    s.resolve t c fallback = .ok a ↔ s.resolver t.text c = .ok a := by
  unfold resolve
  split <;> rename_i h <;> simp [h]

theorem convertAs_eq_ok {vt : ValueType} {name : Option String} {v : Value} :
    s.convertAs vt name t fallback = .ok v ↔ s.converter vt t.text = .ok v := by
  unfold convertAs
  split <;> rename_i h <;> simp [h]

theorem convert_eq_ok {a : Attribute} {v : Value} :
    s.convert a t fallback = .ok v ↔ s.converter a.valueType t.text = .ok v :=
  convertAs_eq_ok

end Setting

namespace Leaf

variable {s : Setting} {n : Node} {q : Query}

/-- The node names an attribute that resolves to `a` with the capability. -/
def Resolves (s : Setting) (n : Node) (c : Capability) (a : Attribute) : Prop :=
  ∃ t, n.attributeName = some t ∧ s.resolver t.text c = .ok a

/-- The token is a literal that the converter reads as `v` for the attribute. -/
def Reads (s : Setting) (a : Attribute) (t : Token) (v : Value) : Prop :=
  s.converter a.valueType t.text = .ok v

/-- The token is a literal of a truth value. -/
def Flags (s : Setting) (t : Token) (b : Bool) : Prop :=
  s.converter .bool t.text = .ok (.bool b)

/-! ## Operands -/

theorem theAttribute_eq_ok {c : Capability} {a : Attribute} :
    theAttribute s n c = .ok a ↔ Resolves s n c a := by
  unfold theAttribute Resolves
  split <;> rename_i h <;> simp [h, missing, Setting.resolve_eq_ok]

theorem requireCount_eq_ok {what : String} {ts : List Token} {count : Nat} {u : Unit} :
    requireCount s n what ts count = .ok u ↔ ts.length = count := by
  unfold requireCount
  split <;> rename_i h <;> simp [h]

theorem noFlags_eq_ok {u : Unit} : noFlags s n = .ok u ↔ n.flags = [] := by
  simp [noFlags, requireCount_eq_ok]

theorem noOperands_eq_ok {u : Unit} :
    noOperands s n = .ok u ↔ n.values = [] ∧ n.flags = [] := by
  simp [noOperands, bind_eq_ok, requireCount_eq_ok, noFlags_eq_ok]

theorem oneToken_eq_ok {what : String} {ts : List Token} {t : Token} :
    oneToken s n what ts = .ok t ↔ ts = [t] := by
  unfold oneToken
  split
  · simp
  · rename_i h
    simp only [Setting.fail_ne_ok, false_iff]
    exact h t

theorem twoTokens_eq_ok {what : String} {ts : List Token} {t u : Token} :
    twoTokens s n what ts = .ok (t, u) ↔ ts = [t, u] := by
  unfold twoTokens
  split
  · simp
  · rename_i h
    simp only [Setting.fail_ne_ok, false_iff]
    exact h t u

theorem flag_eq_ok {t : Token} {b : Bool} : flag s n t = .ok b ↔ Flags s t b := by
  simp only [flag, bind_eq_ok, Setting.convertAs_eq_ok, Flags]
  constructor
  · rintro ⟨v, hv, h⟩
    cases v with
    | bool c => simp_all
    | integer | float | string => simp at h
  · intro h
    exact ⟨_, h, rfl⟩

theorem convertAll_eq_ok {a : Attribute} {ts : List Token} {vs : List Value} :
    convertAll s n a ts = .ok vs ↔ List.Forall₂ (Reads s a) ts vs := by
  induction ts generalizing vs with
  | nil =>
    simp only [convertAll, Except.ok.injEq]
    constructor
    · rintro rfl
      exact .nil
    · rintro ⟨⟩
      rfl
  | cons t ts ih =>
    simp only [convertAll, bind_eq_ok, Setting.convert_eq_ok, ih]
    constructor
    · rintro ⟨v, hv, ws, hws, h⟩
      cases h
      exact .cons hv hws
    · rintro (_ | ⟨hv, hws⟩)
      exact ⟨_, hv, _, hws, rfl⟩

theorem exists_reads_of_mem {a : Attribute} {ts : List Token} {vs : List Value} {v : Value}
    (h : List.Forall₂ (Reads s a) ts vs) (hv : v ∈ vs) : ∃ t, Reads s a t v := by
  induction h with
  | nil => cases hv
  | cons first _ ih =>
    rcases List.mem_cons.1 hv with rfl | hv
    · exact ⟨_, first⟩
    · exact ih hv

theorem textOperands_eq_ok {a : Attribute} {t : Token} {text : String} :
    textOperands s n = .ok (a, t, text) ↔
      Resolves s n .text a ∧ n.values = [t] ∧ n.flags = [] ∧ Reads s a t (.string text) := by
  simp only [textOperands, oneValue, bind_eq_ok, theAttribute_eq_ok, oneToken_eq_ok,
    noFlags_eq_ok, Setting.convert_eq_ok]
  constructor
  · rintro ⟨a', ha, t', ht, -, hf, v, hv, h⟩
    cases v with
    | string text' =>
      cases h
      exact ⟨ha, ht, hf, hv⟩
    | integer | float | bool => simp at h
  · rintro ⟨ha, ht, hf, hv⟩
    exact ⟨a, ha, t, ht, (), hf, _, hv, rfl⟩

theorem checkObjectType_eq_ok {u : Unit} :
    checkObjectType s n = .ok u ↔
      ∃ t, n.objectType = some t ∧ t.text = s.objectType.name := by
  unfold checkObjectType
  split <;> rename_i h
  · simp [h, missing]
  · split <;> rename_i ht <;> simp [h, ht]

/-! ## Builders -/

theorem comparison_eq_ok {op : Comparison} {c : Capability} :
    comparison op c s n = .ok q ↔
      ∃ a t v, Resolves s n c a ∧ n.values = [t] ∧ n.flags = [] ∧ Reads s a t v ∧
        q = .compare op a v := by
  simp only [comparison, oneValue, bind_eq_ok, theAttribute_eq_ok, oneToken_eq_ok,
    noFlags_eq_ok, Setting.convert_eq_ok]
  constructor
  · rintro ⟨a, ha, t, ht, -, hf, v, hv, h⟩
    cases h
    exact ⟨a, t, v, ha, ht, hf, hv, rfl⟩
  · rintro ⟨a, t, v, ha, ht, hf, hv, rfl⟩
    exact ⟨a, ha, t, ht, (), hf, v, hv, rfl⟩

theorem between_eq_ok :
    between s n = .ok q ↔
      ∃ a t u lower upper, Resolves s n .ordered a ∧ n.values = [t, u] ∧ n.flags = [] ∧
        Reads s a t lower ∧ Reads s a u upper ∧
        q = .between a ⟨lower, true⟩ ⟨upper, true⟩ := by
  simp only [between, twoValues, bind_eq_ok, theAttribute_eq_ok, noFlags_eq_ok,
    Setting.convert_eq_ok]
  constructor
  · rintro ⟨a, ha, ⟨t, u⟩, ht, -, hf, lower, hl, upper, hu, h⟩
    cases h
    exact ⟨a, t, u, lower, upper, ha, twoTokens_eq_ok.1 ht, hf, hl, hu, rfl⟩
  · rintro ⟨a, t, u, lower, upper, ha, ht, hf, hl, hu, rfl⟩
    exact ⟨a, ha, (t, u), twoTokens_eq_ok.2 ht, (), hf, lower, hl, upper, hu, rfl⟩

theorem betweenVerbose_eq_ok :
    betweenVerbose s n = .ok q ↔
      ∃ a t u f g lower upper lowerIn upperIn, Resolves s n .ordered a ∧ n.values = [t, u] ∧
        n.flags = [f, g] ∧ Reads s a t lower ∧ Flags s f lowerIn ∧ Reads s a u upper ∧
        Flags s g upperIn ∧ q = .between a ⟨lower, lowerIn⟩ ⟨upper, upperIn⟩ := by
  simp only [betweenVerbose, twoValues, twoFlags, bind_eq_ok, theAttribute_eq_ok,
    Setting.convert_eq_ok, flag_eq_ok]
  constructor
  · rintro ⟨a, ha, ⟨t, u⟩, ht, ⟨f, g⟩, hf, lower, hl, b, hb, upper, hu, c, hc, h⟩
    cases h
    exact ⟨a, t, u, f, g, lower, upper, b, c, ha, twoTokens_eq_ok.1 ht,
      twoTokens_eq_ok.1 hf, hl, hb, hu, hc, rfl⟩
  · rintro ⟨a, t, u, f, g, lower, upper, b, c, ha, ht, hf, hl, hb, hu, hc, rfl⟩
    exact ⟨a, ha, (t, u), twoTokens_eq_ok.2 ht, (f, g), twoTokens_eq_ok.2 hf,
      lower, hl, b, hb, upper, hu, c, hc, rfl⟩

theorem oneOf_eq_ok :
    oneOf s n = .ok q ↔
      ∃ a vs, Resolves s n .unconstrained a ∧ n.flags = [] ∧
        List.Forall₂ (Reads s a) n.values vs ∧ q = .isIn a vs := by
  simp only [oneOf, bind_eq_ok, theAttribute_eq_ok, noFlags_eq_ok, convertAll_eq_ok]
  constructor
  · rintro ⟨a, ha, -, hf, vs, hvs, h⟩
    cases h
    exact ⟨a, vs, ha, hf, hvs, rfl⟩
  · rintro ⟨a, vs, ha, hf, hvs, rfl⟩
    exact ⟨a, ha, (), hf, vs, hvs, rfl⟩

theorem textTest_eq_ok {op : TextTest} :
    textTest op s n = .ok q ↔
      ∃ a t text, Resolves s n .text a ∧ n.values = [t] ∧ n.flags = [] ∧
        Reads s a t (.string text) ∧ q = .text op a text := by
  simp only [textTest, bind_eq_ok]
  constructor
  · rintro ⟨⟨a, t, text⟩, h, hq⟩
    cases hq
    obtain ⟨ha, ht, hf, hv⟩ := textOperands_eq_ok.1 h
    exact ⟨a, t, text, ha, ht, hf, hv, rfl⟩
  · rintro ⟨a, t, text, ha, ht, hf, hv, rfl⟩
    exact ⟨(a, t, text), textOperands_eq_ok.2 ⟨ha, ht, hf, hv⟩, rfl⟩

theorem matchesRegex_eq_ok :
    matchesRegex s n = .ok q ↔
      ∃ a t text, Resolves s n .text a ∧ n.values = [t] ∧ n.flags = [] ∧
        Reads s a t (.string text) ∧ s.compiles text ∧ q = .matchesRegex a ⟨text⟩ := by
  simp only [matchesRegex, bind_eq_ok]
  constructor
  · rintro ⟨⟨a, t, text⟩, h, hq⟩
    obtain ⟨ha, ht, hf, hv⟩ := textOperands_eq_ok.1 h
    by_cases hc : s.compiles text
    · rw [if_pos hc] at hq
      cases hq
      exact ⟨a, t, text, ha, ht, hf, hv, hc, rfl⟩
    · simp [hc] at hq
  · rintro ⟨a, t, text, ha, ht, hf, hv, hc, rfl⟩
    exact ⟨(a, t, text), textOperands_eq_ok.2 ⟨ha, ht, hf, hv⟩, if_pos hc⟩

theorem has_eq_ok :
    has s n = .ok q ↔
      ∃ a, Resolves s n .unconstrained a ∧ n.values = [] ∧ n.flags = [] ∧ q = .has a := by
  simp only [has, bind_eq_ok, theAttribute_eq_ok, noOperands_eq_ok]
  constructor
  · rintro ⟨a, ha, -, ⟨hv, hf⟩, h⟩
    cases h
    exact ⟨a, ha, hv, hf, rfl⟩
  · rintro ⟨a, ha, hv, hf, rfl⟩
    exact ⟨a, ha, (), ⟨hv, hf⟩, rfl⟩

theorem selection_eq_ok {make : ObjectType → Query} :
    selection make s n = .ok q ↔
      (∃ t, n.objectType = some t ∧ t.text = s.objectType.name) ∧ n.values = [] ∧
        n.flags = [] ∧ q = make s.objectType := by
  simp only [selection, bind_eq_ok, checkObjectType_eq_ok, noOperands_eq_ok]
  constructor
  · rintro ⟨-, ht, -, ⟨hv, hf⟩, h⟩
    cases h
    exact ⟨ht, hv, hf, rfl⟩
  · rintro ⟨ht, hv, hf, rfl⟩
    exact ⟨(), ht, (), ⟨hv, hf⟩, rfl⟩

/-! ## Kinds -/

/-- The capability that a comparison asks of its attribute. -/
def capabilityOf : Comparison → Capability
  | .equal => .unconstrained
  | _ => .ordered

def comparisonKind : Comparison → NodeKind
  | .equal => .equal
  | .lessThan => .lessThan
  | .lessThanOrEqual => .lessThanOrEqual
  | .greaterThan => .greaterThan
  | .greaterThanOrEqual => .greaterThanOrEqual

def textKind : TextTest → NodeKind
  | .startsWith => .startsWith
  | .endsWith => .endsWith
  | .contains => .contains
  | .isContainedIn => .isContainedIn

/-- A node of the leaf kind says the predicate. -/
inductive Accepts (s : Setting) (n : Node) : NodeKind → Query → Prop
  | comparison (op : Comparison) {a : Attribute} {t : Token} {v : Value}
      (resolved : Resolves s n (capabilityOf op) a) (values : n.values = [t])
      (flags : n.flags = []) (value : Reads s a t v) :
      Accepts s n (comparisonKind op) (.compare op a v)
  | between {a : Attribute} {t u : Token} {lower upper : Value}
      (resolved : Resolves s n .ordered a) (values : n.values = [t, u])
      (flags : n.flags = []) (lowerValue : Reads s a t lower) (upperValue : Reads s a u upper) :
      Accepts s n .between (.between a ⟨lower, true⟩ ⟨upper, true⟩)
  | betweenVerbose {a : Attribute} {t u f g : Token} {lower upper : Value}
      {lowerIn upperIn : Bool} (resolved : Resolves s n .ordered a)
      (values : n.values = [t, u]) (flags : n.flags = [f, g])
      (lowerValue : Reads s a t lower) (lowerFlag : Flags s f lowerIn)
      (upperValue : Reads s a u upper) (upperFlag : Flags s g upperIn) :
      Accepts s n .betweenVerbose (.between a ⟨lower, lowerIn⟩ ⟨upper, upperIn⟩)
  | oneOf {a : Attribute} {vs : List Value} (resolved : Resolves s n .unconstrained a)
      (flags : n.flags = []) (values : List.Forall₂ (Reads s a) n.values vs) :
      Accepts s n .oneOf (.isIn a vs)
  | textTest (op : TextTest) {a : Attribute} {t : Token} {text : String}
      (resolved : Resolves s n .text a) (values : n.values = [t]) (flags : n.flags = [])
      (value : Reads s a t (.string text)) : Accepts s n (textKind op) (.text op a text)
  | matchesRegex {a : Attribute} {t : Token} {text : String}
      (resolved : Resolves s n .text a) (values : n.values = [t]) (flags : n.flags = [])
      (value : Reads s a t (.string text)) (compiles : s.compiles text) :
      Accepts s n .matchesRegex (.matchesRegex a ⟨text⟩)
  | has {a : Attribute} (resolved : Resolves s n .unconstrained a) (values : n.values = [])
      (flags : n.flags = []) : Accepts s n .has (.has a)
  | all {t : Token} (token : n.objectType = some t) (same : t.text = s.objectType.name)
      (values : n.values = []) (flags : n.flags = []) : Accepts s n .all (.all s.objectType)
  | none {t : Token} (token : n.objectType = some t) (same : t.text = s.objectType.name)
      (values : n.values = []) (flags : n.flags = []) : Accepts s n .none (.none s.objectType)

theorem accepts_of_builder {k : NodeKind} {build : Builder} (hb : builder? k = some build)
    (h : build s n = .ok q) : Accepts s n k q := by
  have comparison {op : Comparison} (h : Leaf.comparison op (capabilityOf op) s n = .ok q) :
      Accepts s n (comparisonKind op) q := by
    obtain ⟨a, t, v, ha, ht, hf, hv, rfl⟩ := comparison_eq_ok.1 h
    exact .comparison op ha ht hf hv
  have text {op : TextTest} (h : Leaf.textTest op s n = .ok q) :
      Accepts s n (textKind op) q := by
    obtain ⟨a, t, x, ha, ht, hf, hv, rfl⟩ := textTest_eq_ok.1 h
    exact .textTest op ha ht hf hv
  cases k <;> simp only [builder?, Option.some.injEq, reduceCtorEq] at hb <;> subst hb
  case equal | lessThan | lessThanOrEqual | greaterThan | greaterThanOrEqual =>
    exact comparison h
  case startsWith | endsWith | contains | isContainedIn => exact text h
  case between =>
    obtain ⟨a, t, u, lower, upper, ha, ht, hf, hl, hu, rfl⟩ := between_eq_ok.1 h
    exact .between ha ht hf hl hu
  case betweenVerbose =>
    obtain ⟨a, t, u, f, g, lower, upper, b, c, ha, ht, hf, hl, hb, hu, hc, rfl⟩ :=
      betweenVerbose_eq_ok.1 h
    exact .betweenVerbose ha ht hf hl hb hu hc
  case oneOf =>
    obtain ⟨a, vs, ha, hf, hvs, rfl⟩ := oneOf_eq_ok.1 h
    exact .oneOf ha hf hvs
  case matchesRegex =>
    obtain ⟨a, t, x, ha, ht, hf, hv, hc, rfl⟩ := matchesRegex_eq_ok.1 h
    exact .matchesRegex ha ht hf hv hc
  case has =>
    obtain ⟨a, ha, hv, hf, rfl⟩ := has_eq_ok.1 h
    exact .has ha hv hf
  case all =>
    obtain ⟨⟨t, ht, hn⟩, hv, hf, rfl⟩ := selection_eq_ok.1 h
    exact .all ht hn hv hf
  case none =>
    obtain ⟨⟨t, ht, hn⟩, hv, hf, rfl⟩ := selection_eq_ok.1 h
    exact .none ht hn hv hf

theorem exists_builder_of_accepts {k : NodeKind} (h : Accepts s n k q) :
    ∃ build, builder? k = some build ∧ build s n = .ok q := by
  cases h with
  | comparison op ha ht hf hv =>
    cases op <;> exact ⟨_, rfl, comparison_eq_ok.2 ⟨_, _, _, ha, ht, hf, hv, rfl⟩⟩
  | between ha ht hf hl hu =>
    exact ⟨_, rfl, between_eq_ok.2 ⟨_, _, _, _, _, ha, ht, hf, hl, hu, rfl⟩⟩
  | betweenVerbose ha ht hf hl hb hu hc =>
    exact ⟨_, rfl, betweenVerbose_eq_ok.2
      ⟨_, _, _, _, _, _, _, _, _, ha, ht, hf, hl, hb, hu, hc, rfl⟩⟩
  | oneOf ha hf hvs => exact ⟨_, rfl, oneOf_eq_ok.2 ⟨_, _, ha, hf, hvs, rfl⟩⟩
  | textTest op ha ht hf hv =>
    cases op <;> exact ⟨_, rfl, textTest_eq_ok.2 ⟨_, _, _, ha, ht, hf, hv, rfl⟩⟩
  | matchesRegex ha ht hf hv hc =>
    exact ⟨_, rfl, matchesRegex_eq_ok.2 ⟨_, _, _, ha, ht, hf, hv, hc, rfl⟩⟩
  | has ha hv hf => exact ⟨_, rfl, has_eq_ok.2 ⟨_, ha, hv, hf, rfl⟩⟩
  | all ht hn hv hf => exact ⟨_, rfl, selection_eq_ok.2 ⟨⟨_, ht, hn⟩, hv, hf, rfl⟩⟩
  | none ht hn hv hf => exact ⟨_, rfl, selection_eq_ok.2 ⟨⟨_, ht, hn⟩, hv, hf, rfl⟩⟩

/-- The source that diagnostics point into does not decide what is accepted. -/
theorem Accepts.withSource {k : NodeKind} (h : Accepts s n k q) (source : Option Source) :
    Accepts { s with source } n k q := by
  cases h with
  | comparison op ha ht hf hv => exact .comparison op ha ht hf hv
  | between ha ht hf hl hu => exact .between ha ht hf hl hu
  | betweenVerbose ha ht hf hl hb hu hc => exact .betweenVerbose ha ht hf hl hb hu hc
  | oneOf ha hf hvs => exact .oneOf ha hf hvs
  | textTest op ha ht hf hv => exact .textTest op ha ht hf hv
  | matchesRegex ha ht hf hv hc => exact .matchesRegex ha ht hf hv hc
  | has ha hv hf => exact .has ha hv hf
  | all ht hn hv hf => exact .all ht hn hv hf
  | none ht hn hv hf => exact .none ht hn hv hf

/-- A predicate has nothing beneath it. -/
theorem Accepts.children_eq_nil {k : NodeKind} (h : Accepts s n k q) : q.children = [] := by
  cases h <;> rfl

end Leaf

end FilterQuery
