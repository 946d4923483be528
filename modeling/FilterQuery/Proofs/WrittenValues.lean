import FilterQuery.Proofs.QueryJson

/-!
# Values written as JSON

In the JSON of a translated expression every value stands in the form of its attribute's
type: digits for an integer, a point or an exponent in a float, a truth value, a string.
The one exception are floats without a number, which the literal notation has and JSON has
not: where a literal names a NaN or an infinity, or exceeds every float, `null` is written.
-/
namespace FilterQuery

namespace Json

def items : Json → List Json
  | array js => js
  | _ => []

/-- What stands where an object of a query has values. -/
def operands (j : Json) : List Json :=
  j.named "value" ++ j.named "lower" ++ j.named "upper" ++ (j.named "values").flatMap items

end Json

/-- The form in which values of the type are written. -/
def ValueType.Writes (t : ValueType) (j : Json) : Prop :=
  match t with
  | .integer => (∃ n : Int64, j = .int n.toInt) ∧ ∀ c ∈ j.compactChars, c.isDigit ∨ c = '-'
  | .float => (∃ x, j = .float x ∧ x.isFinite) ∧ ∃ c ∈ j.compactChars, c = '.' ∨ c = 'e'
  | .bool => ∃ b, j = .bool b
  | .string => ∃ s, j = .string s

namespace Value

theorem writes_toJson {v : Value} (hv : v.Finite) : v.valueType.Writes v.toJson := by
  cases v with
  | integer n =>
    refine ⟨⟨n, rfl⟩, fun c hc => ?_⟩
    rw [toJson, Json.compactChars] at hc
    exact Text.mem_repr hc
  | float x =>
    have finite : x.isFinite := hv
    have json : (Value.float x).toJson = .float x := if_pos finite
    rw [json]
    refine ⟨⟨x, rfl, finite⟩, ?_⟩
    rw [Json.compactChars]
    exact Json.exists_mem_floatText finite
  | bool b => exact ⟨b, rfl⟩
  | string s => exact ⟨s, rfl⟩

theorem toJson_eq_null_iff {v : Value} : v.toJson = .null ↔ ¬ v.Finite := by
  cases v <;> simp [toJson, Finite]

theorem valueType_of_not_finite {v : Value} (hv : ¬ v.Finite) : v.valueType = .float := by
  cases v <;> simp_all [Finite, valueType]

end Value

/-! ## The values of a query and those of its JSON -/

namespace Query

variable {P : Query → Prop} {q : Query} {j w : Json}

/-- All values of a node are written, and nothing else stands in their places. -/
theorem operands_toJson (q : Query) : q.toJson.operands = q.values.map Value.toJson := by
  cases q <;> simp [toJson, tagged, Json.operands, Json.named, Json.items, values]

theorem operands_of_part (h : Part P j) :
    j.operands = [] ∨ ∃ q, P q ∧ j = q.toJson := by
  cases h with
  | @query q hq => exact .inr ⟨q, hq, rfl⟩
  | key a => exact .inl (by simp [Attribute.toJson, Json.operands, Json.named])
  | value v =>
    refine .inl ?_
    cases v with
    | float x =>
      rw [Value.toJson]
      split <;> rfl
    | _ => rfl
  | _ => exact .inl rfl

/-- What stands in the place of a value is a value of some node. -/
theorem exists_value_of_operand (h : q.Everywhere P) (hj : j ∈ q.toJson.parts)
    (hw : w ∈ j.operands) : ∃ c, P c ∧ j = c.toJson ∧ ∃ v ∈ c.values, w = v.toJson := by
  rcases operands_of_part (part_of_mem_parts h hj) with none | ⟨c, hc, rfl⟩
  · simp [none] at hw
  · rw [operands_toJson, List.mem_map] at hw
    obtain ⟨v, hv, rfl⟩ := hw
    exact ⟨c, hc, rfl, v, hv, rfl⟩

theorem mem_parts_self (q : Query) : q.toJson ∈ q.toJson.parts := by
  cases q <;> simp [toJson, tagged, Json.parts]

theorem mem_partsItems {js : List Json} {i : Json} (hi : i ∈ js) (h : j ∈ i.parts) :
    j ∈ Json.partsItems js := by
  induction js with
  | nil => cases hi
  | cons i' js ih =>
    rw [Json.partsItems, List.mem_append]
    rcases List.mem_cons.1 hi with rfl | hi
    · exact .inl h
    · exact .inr (ih hi)

theorem mem_parts_of_child {c : Query} (hc : c ∈ q.children) (h : j ∈ c.toJson.parts) :
    j ∈ q.toJson.parts := by
  cases q with
  | junction op qs =>
    have inside : j ∈ Json.partsItems (toJsons qs) := by
      rw [toJsons_eq_map]
      exact mem_partsItems (List.mem_map_of_mem hc) h
    simp [toJson, tagged, Json.parts, Json.partsMembers, inside]
  | not q =>
    obtain rfl : c = q := by simpa [children] using hc
    simp [toJson, tagged, Json.parts, Json.partsMembers, h]
  | _ => cases hc

/-- Every node is written. -/
theorem everywhere_mem_parts (q : Query) : q.Everywhere fun c => c.toJson ∈ q.toJson.parts := by
  induction q using induction_children with
  | step q ih =>
    exact everywhere_iff.2 ⟨q.mem_parts_self, fun c hc =>
      (ih c hc).imp fun d hd => mem_parts_of_child hc hd⟩

/-- No value is written as null exactly when all floats are finite. -/
theorem null_not_mem_operands_iff :
    (∀ j ∈ q.toJson.parts, .null ∉ j.operands) ↔ q.Everywhere Finite := by
  constructor
  · intro h
    refine q.everywhere_mem_parts.imp fun c hc v hv => ?_
    by_contra infinite
    refine h c.toJson hc ?_
    rw [operands_toJson, List.mem_map]
    exact ⟨v, hv, Value.toJson_eq_null_iff.2 infinite⟩
  · intro finite j hj hw
    obtain ⟨c, hc, -, v, hv, null⟩ := exists_value_of_operand finite hj hw
    exact Value.toJson_eq_null_iff.1 null.symm (hc v hv)

/-- The values of a node that fits have the type of the attribute written next to them. -/
theorem Fits.valueType {schema : Schema} {compiles : String → Bool} {type : ObjectType}
    (h : q.Fits schema compiles type) {v : Value} (hv : v ∈ q.values) :
    ∃ a, schema.Declares a ∧ q.toJson.named "attribute" = [a.toJson] ∧
      v.valueType = a.valueType := by
  cases q <;> simp only [values, List.mem_cons, List.not_mem_nil, or_false] at hv
  case compare op a w =>
    obtain rfl := hv
    exact ⟨a, h.1, rfl, h.2⟩
  case between a lower upper =>
    rcases hv with rfl | rfl
    · exact ⟨a, h.1, rfl, h.2.1⟩
    · exact ⟨a, h.1, rfl, h.2.2⟩
  case oneOf a vs => exact ⟨a, h.1, rfl, h.2.1 v hv⟩

end Query

/-! ## Results -/

namespace ParseResult

variable {r : ParseResult} {j : Json}

theorem operands_options (h : j ∈ r.options.toJson.parts) : j.operands = [] := by
  cases ho : r.options.orderBy with
  | none =>
    simp only [Options.toJson, ho, Json.parts, Json.partsMembers, List.mem_singleton] at h
    rw [h]
    rfl
  | some os =>
    simp only [Options.toJson, ho, Json.parts, Json.partsMembers, List.append_nil,
      List.mem_cons] at h
    rcases h with rfl | rfl | h
    · simp [Json.operands, Json.named]
    · rfl
    · obtain ⟨i, hi, mem⟩ := Query.exists_of_mem_partsItems h
      obtain ⟨o, -, rfl⟩ := List.mem_map.1 hi
      simp only [Order.toJson, Attribute.toJson, Json.parts, Json.partsMembers, List.append_nil,
        List.cons_append, List.nil_append, List.mem_cons, List.not_mem_nil, or_false] at mem
      rcases mem with rfl | rfl | rfl | rfl | rfl <;> simp [Json.operands, Json.named]

/-- Values are written inside the query only. -/
theorem mem_parts_of_operand {w : Json} (hj : j ∈ r.toJson.parts) (hw : w ∈ j.operands) :
    j ∈ r.query.toJson.parts := by
  simp only [toJson, Json.parts, Json.partsMembers, List.append_nil, List.mem_cons,
    List.mem_append] at hj
  rcases hj with rfl | hj | hj
  · simp [Json.operands, Json.named] at hw
  · exact hj
  · simp [operands_options hj] at hw

theorem mem_parts_of_query (hj : j ∈ r.query.toJson.parts) : j ∈ r.toJson.parts := by
  simp [toJson, Json.parts, Json.partsMembers, hj]

end ParseResult

namespace Schema

variable {schema : Schema} {compiles : String → Bool} {type : ObjectType} {tree : ParseTree}
  {r : ParseResult}

theorem everywhere_of_translate
    (h : (schema.translator compiles type).translate tree = .ok r) :
    r.query.Everywhere (Query.Fits schema compiles type) := by
  obtain ⟨done, translated, result⟩ := bind_eq_ok.1 h
  have default : { schema.translator compiles type with handlers := .without [] }.translation
      tree = .ok done := translated
  obtain ⟨reading, read, roots, -⟩ := Translator.exists_reading_of_translation default
  obtain ⟨queries, -⟩ := Node.forall_of_readingAll
    (P := fun q => q.Everywhere (Query.Fits schema compiles type)) (O := fun _ => True)
    (fun _ _ _ => Node.everywhere_of_forms) (fun _ _ _ _ => trivial) tree.nodes read
  obtain ⟨⟨q, hq, same⟩, -⟩ := Translation.eq_ok_of_result result
  rw [← same]
  exact queries q (roots ▸ hq)

/-- The values of the result and those of its JSON are the same, and each has a form that its
attribute's type has. -/
structure WritesValues (schema : Schema) (r : ParseResult) : Prop where
  /-- All values of all nodes are written. -/
  written : r.query.Everywhere fun q =>
    q.toJson ∈ r.toJson.parts ∧ q.toJson.operands = q.values.map Value.toJson
  /-- What stands in the place of a value has the form of the type of the attribute next to it,
  or it is a float's and null. -/
  typed : ∀ j ∈ r.toJson.parts, ∀ w ∈ j.operands, ∃ a, schema.Declares a ∧
    j.named "attribute" = [a.toJson] ∧ (a.valueType.Writes w ∨ a.valueType = .float ∧ w = .null)
  /-- Only a float that is a NaN or infinite is written as null. -/
  null : (∀ j ∈ r.toJson.parts, .null ∉ j.operands) ↔ r.query.Everywhere Query.Finite

/-- Whatever the schema and the tree, the values of the result are written in its JSON, in the
forms of their types where floats are finite. -/
theorem writes_of_translate (schema : Schema) (compiles : String → Bool) (type : ObjectType)
    (tree : ParseTree) (r : ParseResult)
    (h : (schema.translator compiles type).translate tree = .ok r) :
    schema.WritesValues r where
  written := r.query.everywhere_mem_parts.imp fun q hq =>
    ⟨ParseResult.mem_parts_of_query hq, q.operands_toJson⟩
  typed := by
    intro j hj w hw
    obtain ⟨q, fits, rfl, v, hv, rfl⟩ := Query.exists_value_of_operand
      (everywhere_of_translate h) (ParseResult.mem_parts_of_operand hj hw) hw
    obtain ⟨a, declared, beside, types⟩ := fits.valueType hv
    refine ⟨a, declared, beside, ?_⟩
    rw [← types]
    by_cases finite : v.Finite
    · exact .inl (Value.writes_toJson finite)
    · exact .inr ⟨Value.valueType_of_not_finite finite, Value.toJson_eq_null_iff.2 finite⟩
  null := by
    rw [← Query.null_not_mem_operands_iff]
    constructor
    · intro absent j hj
      exact absent j (ParseResult.mem_parts_of_query hj)
    · intro absent j hj hw
      exact absent j (ParseResult.mem_parts_of_operand hj hw) hw

def measures : Schema := ⟨"box", ofEntries [("size", .float), ("count", .integer)]⟩

/-- A range of floats, one of them whole, around a set of integers and an ordering clause. -/
def measuresTree : ParseTree where
  nodes := [.scope .or [
    { Node.leaf .betweenVerbose "size" with
      values := [⟨"-7", {}⟩, ⟨"0.5", {}⟩], flags := [⟨"false", {}⟩, ⟨"true", {}⟩] },
    .scope .not [{ Node.leaf .oneOf "count" with values := [⟨"7", {}⟩, ⟨"+08", {}⟩] }],
    { kind := .orderBy, orderTerms := [⟨⟨"size", {}⟩, none⟩] }]]

theorem writes_of_translate_measures :
    ∃ r, (measures.translator (fun _ => true) ⟨"box"⟩).translate measuresTree = .ok r ∧
      measures.WritesValues r :=
  let ⟨r, translated⟩ : ∃ r, (measures.translator (fun _ => true) ⟨"box"⟩).translate
      measuresTree = .ok r := ⟨_, rfl⟩
  ⟨r, translated, writes_of_translate measures _ ⟨"box"⟩ measuresTree r translated⟩

/-- A literal that names no number is accepted and leaves no trace in the JSON. -/
theorem null_mem_operands_of_translate :
    ∃ r, (measures.translator (fun _ => true) ⟨"box"⟩).translate
        ⟨"", "", [{ Node.leaf .equal "size" with values := [⟨"NaN", {}⟩] }]⟩ = .ok r ∧
      ∃ j ∈ r.toJson.parts, j.named "value" = [.null] :=
  ⟨_, rfl, _, ParseResult.mem_parts_of_query (Query.mem_parts_self _), rfl⟩

end Schema

end FilterQuery
