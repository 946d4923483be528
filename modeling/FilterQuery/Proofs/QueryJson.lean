import FilterQuery.Proofs.Json.Injective
import FilterQuery.Proofs.Unambiguous
import FilterQuery.Query.Encoding

/-!
# One query for a JSON text

The JSON form of a query says which query it is when every float in it is finite. The type
and the names of the members tell the shape of the query; attributes and values are told
from their own JSON. No schema is needed: a type stands next to the name of an attribute,
and integers, floats, texts and truth values look different.
-/
namespace FilterQuery

/-- A float is a number; every other value is what it is. -/
def Value.Finite : Value → Prop
  | .float x => x.isFinite
  | _ => True

instance : DecidablePred Value.Finite
  | .float x => inferInstanceAs (Decidable (x.isFinite = true))
  | .integer _ | .bool _ | .string _ => .isTrue trivial

/-- No value of the node is a NaN or infinite. -/
def Query.Finite (q : Query) : Prop := ∀ v ∈ q.values, v.Finite

instance : DecidablePred Query.Finite :=
  fun q => inferInstanceAs (Decidable (∀ v ∈ q.values, v.Finite))

theorem Value.Finite.ne_nan {v : Value} (hv : v.Finite) : v ≠ .float .nan := by
  rintro rfl
  cases hv

/-! ## What occurs in the JSON of a query -/

namespace Query

/-- A part of the JSON of a query: a query with the property, an attribute, a list, or
something without parts. -/
inductive Part (P : Query → Prop) : Json → Prop
  | query {q : Query} (hq : P q) : Part P q.toJson
  | key (a : Attribute) : Part P a.toJson
  | list (js : List Json) : Part P (.array js)
  | name (s : String) : Part P (.string s)
  | flag (b : Bool) : Part P (.bool b)
  | value (v : Value) : Part P v.toJson

variable {P : Query → Prop} {q q' : Query} {j : Json}

theorem toJsons_eq_map (qs : List Query) : toJsons qs = qs.map toJson := by
  induction qs with
  | nil => simp [toJsons]
  | cons q qs ih => simp [toJsons, ih]

theorem parts_value (v : Value) : v.toJson.parts = [v.toJson] := by
  cases v with
  | float x =>
    rw [Value.toJson]
    split <;> rfl
  | _ => rfl

theorem part_of_attribute {a : Attribute} (h : j ∈ a.toJson.parts) : Part P j := by
  rw [Attribute.toJson] at h
  simp only [Json.parts, Json.partsMembers, List.append_nil, List.mem_cons, List.cons_append,
    List.nil_append, List.not_mem_nil, or_false] at h
  rcases h with rfl | rfl | rfl
  · exact .key a
  · exact .name _
  · exact .name _

theorem part_of_values {vs : List Value} (h : j ∈ Json.partsItems (vs.map Value.toJson)) :
    Part P j := by
  induction vs with
  | nil => cases h
  | cons v vs ih =>
    simp only [List.map_cons, Json.partsItems, parts_value, List.mem_append, List.mem_singleton]
      at h
    rcases h with rfl | h
    · exact .value v
    · exact ih h

theorem exists_of_mem_partsItems {js : List Json} (h : j ∈ Json.partsItems js) :
    ∃ i ∈ js, j ∈ i.parts := by
  induction js with
  | nil => cases h
  | cons i js ih =>
    rw [Json.partsItems, List.mem_append] at h
    rcases h with h | h
    · exact ⟨i, by simp, h⟩
    · obtain ⟨k, hk, mem⟩ := ih h
      exact ⟨k, by simp [hk], mem⟩

/-- Whatever holds of all nodes of a query holds of all queries in its JSON. -/
theorem part_of_mem_parts (h : q.Everywhere P) (hj : j ∈ q.toJson.parts) : Part P j := by
  induction q using induction_children with
  | step q ih =>
    obtain ⟨self, below⟩ := everywhere_iff.1 h
    have inside : ∀ c ∈ q.children, j ∈ c.toJson.parts → Part P j :=
      fun c hc => ih c hc (below c hc)
    have whole : Part P q.toJson := .query self
    cases q <;>
      simp only [toJson, tagged, Json.parts, Json.partsMembers, parts_value, List.cons_append,
        List.nil_append, List.append_nil, List.mem_cons, List.mem_append, List.not_mem_nil,
        or_false] at hj whole
    case junction op qs =>
      rcases hj with rfl | rfl | rfl | hj
      · exact whole
      · exact .name _
      · exact .list _
      · obtain ⟨i, hi, mem⟩ := exists_of_mem_partsItems hj
        rw [toJsons_eq_map, List.mem_map] at hi
        obtain ⟨c, hc, rfl⟩ := hi
        exact inside c hc mem
    case not q =>
      rcases hj with rfl | rfl | hj
      · exact whole
      · exact .name _
      · exact inside q (by simp [children]) hj
    case compare op a v =>
      rcases hj with rfl | rfl | hj | rfl
      · exact whole
      · exact .name _
      · exact part_of_attribute hj
      · exact .value v
    case between a lower upper =>
      rcases hj with rfl | rfl | hj | rfl | rfl | rfl | rfl
      · exact whole
      · exact .name _
      · exact part_of_attribute hj
      · exact .value lower.value
      · exact .flag _
      · exact .value upper.value
      · exact .flag _
    case oneOf a vs =>
      rcases hj with rfl | rfl | hj | rfl | hj
      · exact whole
      · exact .name _
      · exact part_of_attribute hj
      · exact .list _
      · exact part_of_values hj
    case has a =>
      rcases hj with rfl | rfl | hj
      · exact whole
      · exact .name _
      · exact part_of_attribute hj
    case text op a s | matchesRegex a p =>
      rcases hj with rfl | rfl | hj | rfl
      · exact whole
      · exact .name _
      · exact part_of_attribute hj
      · exact .name _
    case all t | none t =>
      rcases hj with rfl | rfl | rfl
      · exact whole
      · exact .name _
      · exact .name _

/-- Floats that have no number are not written as floats. -/
theorem isFinite_of_part {x : Binary64} (h : Part P (.float x)) : x.isFinite := by
  generalize hj : Json.float x = j at h
  cases h with
  | @query q _ => cases q <;> cases hj
  | key a => cases hj
  | list js => cases hj
  | name s => cases hj
  | flag b => cases hj
  | value v =>
    cases v with
    | float y =>
      rw [Value.toJson] at hj
      split at hj
      next hy =>
        obtain rfl := Json.float.inj hj
        exact hy
      next => cases hj
    | _ => cases hj

theorem everywhere_true (q : Query) : q.Everywhere fun _ => True := by
  induction q using induction_children with
  | step q ih => exact everywhere_iff.2 ⟨trivial, ih⟩

theorem allFinite_toJson (q : Query) : Json.AllFinite q.toJson.parts :=
  fun _ hx => isFinite_of_part (part_of_mem_parts q.everywhere_true hx)

end Query

/-! ## Attributes and values -/

theorem ValueType.keyword_inj {t t' : ValueType} (h : t.keyword = t'.keyword) : t = t' := by
  have read := ofKeyword?_keyword t
  rw [h, ofKeyword?_keyword] at read
  exact (Option.some.inj read).symm

theorem Attribute.toJson_inj {a b : Attribute} (h : a.toJson = b.toJson) : a = b := by
  simp only [toJson, Json.object.injEq, List.cons.injEq, Prod.mk.injEq, Json.string.injEq,
    true_and, and_true] at h
  obtain ⟨names, types⟩ := h
  obtain ⟨n, t⟩ := a
  obtain ⟨m, u⟩ := b
  rw [Attribute.mk.injEq]
  exact ⟨names, ValueType.keyword_inj types⟩

theorem Value.toJson_inj {v w : Value} (hv : v.Finite) (hw : w.Finite)
    (h : v.toJson = w.toJson) : v = w := by
  cases v <;> cases w <;> simp_all [toJson, Finite, Int64.toInt_inj]

/-- A map that tells the members of two lists apart tells the lists apart. -/
theorem eq_of_map_eq {α β : Type} {f : α → β} {xs ys : List α}
    (inj : ∀ x ∈ xs, ∀ y ∈ ys, f x = f y → x = y) (h : xs.map f = ys.map f) : xs = ys := by
  induction xs generalizing ys with
  | nil => exact (List.map_eq_nil_iff.1 h.symm).symm
  | cons x xs ih =>
    cases ys with
    | nil => cases h
    | cons y ys =>
      obtain ⟨first, further⟩ := List.cons.inj h
      rw [inj x (by simp) y (by simp) first,
        ih (fun x hx y hy => inj x (by simp [hx]) y (by simp [hy])) further]

/-! ## Queries -/

theorem Junction.name_inj {op op' : Junction} (h : op.name = op'.name) : op = op' := by
  cases op <;> cases op' <;> simp_all [name]

theorem Comparison.name_inj {op op' : Comparison} (h : op.name = op'.name) : op = op' := by
  cases op <;> cases op' <;> simp_all [name]

theorem TextTest.name_inj {op op' : TextTest} (h : op.name = op'.name) : op = op' := by
  cases op <;> cases op' <;> simp_all [name]

namespace Query

variable {q q' : Query}

theorem toJson_inj (h : q.Everywhere Finite) (h' : q'.Everywhere Finite)
    (same : q.toJson = q'.toJson) : q = q' := by
  induction q using induction_children generalizing q' with
  | step q ih =>
    obtain ⟨self, below⟩ := everywhere_iff.1 h
    obtain ⟨self', below'⟩ := everywhere_iff.1 h'
    have inside : ∀ c ∈ q.children, ∀ c' ∈ q'.children, c.toJson = c'.toJson → c = c' :=
      fun c hc c' hc' => ih c hc (below c hc) (below' c' hc')
    have value : ∀ v ∈ q.values, ∀ w ∈ q'.values, v.toJson = w.toJson → v = w :=
      fun v hv w hw => Value.toJson_inj (self v hv) (self' w hw)
    -- Queries of different shapes differ in their type or in the names of their members.
    cases q <;> cases q' <;>
      simp only [toJson, tagged, Json.object.injEq, Json.string.injEq, Json.bool.injEq,
        Json.array.injEq, List.cons.injEq, Prod.mk.injEq, true_and, and_true, reduceCtorEq,
        String.reduceEq, and_false, false_and] at same
    case junction.junction op qs op' qs' =>
      rw [toJsons_eq_map, toJsons_eq_map] at same
      obtain rfl : qs = qs' := eq_of_map_eq inside same.2
      rw [Junction.name_inj same.1]
    case not.not q q' => rw [inside q (by simp [children]) q' (by simp [children]) same]
    case compare.compare op a v op' a' v' =>
      obtain ⟨names, attributes, values⟩ := same
      rw [Comparison.name_inj names, Attribute.toJson_inj attributes,
        value v (by simp [Query.values]) v' (by simp [Query.values]) values]
    case between.between a l u a' l' u' =>
      obtain ⟨attributes, lowers, lowersInclusive, uppers, uppersInclusive⟩ := same
      have lower : l.value = l'.value :=
        value _ (by simp [Query.values]) _ (by simp [Query.values]) lowers
      have upper : u.value = u'.value :=
        value _ (by simp [Query.values]) _ (by simp [Query.values]) uppers
      obtain ⟨_, _⟩ := l
      obtain ⟨_, _⟩ := u
      rw [Attribute.toJson_inj attributes]
      simp_all
    case oneOf.oneOf a vs a' vs' =>
      obtain rfl : vs = vs' := eq_of_map_eq value same.2
      rw [Attribute.toJson_inj same.1]
    case text.text op a s op' a' s' =>
      obtain ⟨names, attributes, rfl⟩ := same
      rw [TextTest.name_inj names, Attribute.toJson_inj attributes]
    case matchesRegex.matchesRegex a p a' p' =>
      obtain ⟨attributes, sources⟩ := same
      obtain ⟨_⟩ := p
      rw [Attribute.toJson_inj attributes]
      simp_all
    case has.has a a' => rw [Attribute.toJson_inj same]
    case all.all t t' | none.none t t' =>
      obtain ⟨_⟩ := t
      simp_all

theorem beq_self_of_finite (h : q.Everywhere Finite) : (q == q) = true :=
  beq_self_of_values (h.imp fun _ finite v hv => (finite v hv).ne_nan)

end Query

/-! ## Results -/

theorem Order.toJson_inj {o o' : Order} (h : o.toJson = o'.toJson) : o = o' := by
  simp only [toJson, Json.object.injEq, List.cons.injEq, Prod.mk.injEq, Json.bool.injEq,
    true_and, and_true] at h
  obtain ⟨keys, directions⟩ := h
  obtain ⟨_, _⟩ := o
  obtain ⟨_, _⟩ := o'
  rw [Order.mk.injEq]
  exact ⟨Attribute.toJson_inj keys, directions⟩

/-- No clause at all and a clause without terms are told apart as well. -/
theorem Options.toJson_inj {o o' : Options} (h : o.toJson = o'.toJson) : o = o' := by
  obtain ⟨os⟩ := o
  obtain ⟨os'⟩ := o'
  cases os <;> cases os' <;>
    simp only [toJson, Json.object.injEq, List.cons.injEq, Prod.mk.injEq, Json.array.injEq,
      true_and, and_true, reduceCtorEq] at h
  case none.none => rfl
  case some.some os os' =>
    rw [eq_of_map_eq (fun _ _ _ _ => Order.toJson_inj) h]

theorem Order.allFinite_toJson (os : List Order) :
    Json.AllFinite (Json.partsItems (os.map Order.toJson)) := by
  intro x hx
  obtain ⟨j, hj, mem⟩ := Query.exists_of_mem_partsItems hx
  obtain ⟨o, -, rfl⟩ := List.mem_map.1 hj
  simp [toJson, Attribute.toJson, Json.parts, Json.partsMembers] at mem

theorem ParseResult.allFinite_toJson (r : ParseResult) : Json.AllFinite r.toJson.parts := by
  have query := r.query.allFinite_toJson
  have options : Json.AllFinite r.options.toJson.parts := by
    cases ho : r.options.orderBy with
    | none =>
      intro x hx
      simp [Options.toJson, ho, Json.parts, Json.partsMembers] at hx
    | some os =>
      intro x hx
      refine Order.allFinite_toJson os x ?_
      simpa [Options.toJson, ho, Json.parts, Json.partsMembers] using hx
  intro x hx
  simp only [toJson, Json.parts, Json.partsMembers, List.append_nil, List.mem_cons,
    List.mem_append, reduceCtorEq, false_or] at hx
  exact hx.elim (query x) (options x)

/-- Queries, and queries together with their options, are the same if their compact JSON
texts are, whatever their shape, as long as their floats are finite. -/
theorem ParseResult.eq_of_compact_eq :
    (∀ q q' : Query, q.Everywhere Query.Finite → q'.Everywhere Query.Finite →
      q.toJson.compact = q'.toJson.compact → q = q' ∧ (q == q') = true) ∧
    ∀ r r' : ParseResult, r.query.Everywhere Query.Finite → r'.query.Everywhere Query.Finite →
      r.toJson.compact = r'.toJson.compact → r = r' ∧ (r.query == r'.query) = true := by
  constructor
  · intro q q' finite finite' same
    have json := Json.compact_inj q.allFinite_toJson q'.allFinite_toJson same
    obtain rfl := Query.toJson_inj finite finite' json
    exact ⟨rfl, Query.beq_self_of_finite finite⟩
  · intro r r' finite finite' same
    have json := Json.compact_inj r.allFinite_toJson r'.allFinite_toJson same
    simp only [toJson, Json.object.injEq, List.cons.injEq, Prod.mk.injEq, true_and, and_true]
      at json
    obtain ⟨query, options⟩ := r
    obtain ⟨query', options'⟩ := r'
    obtain rfl := Query.toJson_inj finite finite' json.1
    obtain rfl := Options.toJson_inj json.2
    exact ⟨rfl, Query.beq_self_of_finite finite⟩

/-- Numbers, texts and truth values that are written alike. -/
def Value.lookalikes : List Value :=
  [.integer 1, .float (.ofDecimal false 1 0), .string "1", .string "1.0", .bool true,
    .string "true"]

/-- Two zeros as the ends of a range, and names that need escapes. -/
def Query.lookalikes : Query :=
  .junction .or
    [.oneOf ⟨"size", .float⟩ Value.lookalikes,
      .not (.between ⟨"size", .integer⟩ ⟨.float (.zero true), false⟩ ⟨.integer 0, true⟩),
      .matchesRegex ⟨"na\"me", .string⟩ ⟨"\\d+"⟩]

theorem Query.finite_lookalikes : lookalikes.Everywhere Finite := by
  refine ⟨by decide, ?_, ⟨by decide, ?_⟩, ?_, trivial⟩
  all_goals
    change Finite _
    decide

/-- The values given twice are one value in the set, and no term is no clause. -/
theorem ParseResult.eq_of_compact_eq_lookalikes :
    let set := Query.isIn ⟨"size", .float⟩ (Value.lookalikes ++ Value.lookalikes)
    let query := Query.junction .or (set :: Query.lookalikes.children.drop 1)
    Query.lookalikes = query ∧ ParseResult.mk Query.lookalikes {} = ⟨query, .ofOrders []⟩ :=
  ⟨(eq_of_compact_eq.1 _ _ Query.finite_lookalikes Query.finite_lookalikes rfl).1,
    (eq_of_compact_eq.2 ⟨_, _⟩ ⟨_, _⟩ Query.finite_lookalikes Query.finite_lookalikes rfl).1⟩

end FilterQuery
