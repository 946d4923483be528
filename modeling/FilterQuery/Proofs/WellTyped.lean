import FilterQuery.Proofs.Declarations
import FilterQuery.Proofs.Walk

/-!
# Well-typed queries

Every query that a translation hands over is well formed and well typed for the schema
that resolves its names: `Query.Fits` says so of one node, `Query.Everywhere` of a node
and all beneath it. The converter is the one of the literal notation; which patterns
compile is left open.
-/
namespace FilterQuery

namespace Query

mutual

/-- Something holds of a query and of every query beneath it. -/
def Everywhere (P : Query → Prop) : Query → Prop
  | junction op qs => P (junction op qs) ∧ EverywhereAll P qs
  | not q => P (not q) ∧ Everywhere P q
  | q => P q

def EverywhereAll (P : Query → Prop) : List Query → Prop
  | [] => True
  | q :: qs => Everywhere P q ∧ EverywhereAll P qs

end

theorem everywhereAll_iff {P : Query → Prop} {qs : List Query} :
    EverywhereAll P qs ↔ ∀ q ∈ qs, q.Everywhere P := by
  induction qs with
  | nil => simp [EverywhereAll]
  | cons q qs ih => simp [EverywhereAll, ih]

/-- What the node itself must satisfy: its attribute is declared with the type it carries,
its values have that type, text predicates stand on strings, a pattern compiles, a
connective has something to connect, no two members of a set are equal, and a selection
names the object type in use. -/
def Fits (schema : Schema) (compiles : String → Bool) (type : ObjectType) : Query → Prop
  | junction _ qs => qs ≠ []
  | not _ => True
  | compare _ a v => schema.Declares a ∧ v.valueType = a.valueType
  | between a lower upper =>
    schema.Declares a ∧ lower.value.valueType = a.valueType ∧
      upper.value.valueType = a.valueType
  | oneOf a vs =>
    schema.Declares a ∧ (∀ v ∈ vs, v.valueType = a.valueType) ∧
      vs.Pairwise fun v w => (v == w) = false ∧ (w == v) = false
  | text _ a _ => schema.Declares a ∧ a.valueType = .string
  | matchesRegex a p => schema.Declares a ∧ a.valueType = .string ∧ compiles p.source
  | has a => schema.Declares a
  | all t | none t => t = type

end Query

/-! ## Sets -/

theorem Value.beq_comm (v w : Value) : (v == w) = (w == v) := by
  cases v <;> cases w <;>
    simp [BEq.beq, Value.eq, Binary64.eq_comm, eq_comm]

namespace Query

theorem pairwise_addDistinct {seen : List Value} {v : Value}
    (h : seen.Pairwise fun v w => (v == w) = false) :
    (addDistinct seen v).Pairwise fun v w => (v == w) = false := by
  unfold addDistinct
  split
  next => exact h
  next hv =>
    refine List.pairwise_append.2 ⟨h, List.pairwise_singleton _ _, ?_⟩
    intro u hu w hw
    obtain rfl := List.mem_singleton.1 hw
    simp only [List.any_eq_true, not_exists, not_and] at hv
    simpa using hv u hu

theorem pairwise_distinct (vs : List Value) :
    (distinct vs).Pairwise fun v w => (v == w) = false := by
  unfold distinct
  suffices h : ∀ seen : List Value, (seen.Pairwise fun v w => (v == w) = false) →
      (vs.foldl addDistinct seen).Pairwise fun v w => (v == w) = false from h [] .nil
  induction vs with
  | nil => exact fun seen hs => hs
  | cons v vs ih => exact fun seen hs => ih _ (pairwise_addDistinct hs)

theorem mem_of_mem_distinct {vs : List Value} {v : Value} (h : v ∈ distinct vs) : v ∈ vs := by
  unfold distinct at h
  suffices hm : ∀ seen : List Value, v ∈ vs.foldl addDistinct seen → v ∈ seen ∨ v ∈ vs by
    simpa using hm [] h
  clear h
  induction vs with
  | nil => exact fun seen hs => .inl hs
  | cons w vs ih =>
    intro seen hs
    rcases ih _ hs with h | h
    · unfold addDistinct at h
      split at h
      next => exact .inl h
      next =>
        rcases List.mem_append.1 h with h | h
        · exact .inl h
        · exact .inr (by simp [List.mem_singleton.1 h])
    · exact .inr (List.mem_cons_of_mem w h)

end Query

/-! ## What the nodes of a tree contribute -/

theorem Literal.valueType_of_convert {t : ValueType} {raw : String} {v : Value}
    (h : convert t raw = .ok v) : v.valueType = t := by
  unfold convert at h
  cases hr : read t raw with
  | error fault => simp [hr, Except.mapError] at h
  | ok w =>
    simp only [hr, Except.mapError, Except.ok.injEq] at h
    rw [← h]
    exact valueType_of_read hr

/-- The translator that finds attributes in the schema and reads the literal notation. -/
def Schema.translator (schema : Schema) (compiles : String → Bool) (type : ObjectType) :
    Translator where
  resolver := schema.registry.resolve
  converter := Literal.convert
  compiles := compiles
  objectType := type

section
variable {schema : Schema} {compiles : String → Bool} {type : ObjectType}
  {source : Option Source} {n : Node}

theorem Leaf.declares_of_resolves {c : Capability} {a : Attribute}
    (h : Resolves ((schema.translator compiles type).setting source) n c a) :
    schema.Declares a ∧ a.valueType.supports c := by
  obtain ⟨t, -, ht⟩ := h
  exact Schema.declares_of_resolve ht

theorem Leaf.valueType_of_reads {a : Attribute} {t : Token} {v : Value}
    (h : Reads ((schema.translator compiles type).setting source) a t v) :
    v.valueType = a.valueType := Literal.valueType_of_convert h

theorem Leaf.everywhere_of_accepts {k : NodeKind} {q : Query}
    (h : Accepts ((schema.translator compiles type).setting source) n k q) :
    q.Everywhere (Query.Fits schema compiles type) := by
  cases h with
  | comparison op resolved _ _ value =>
    exact ⟨(declares_of_resolves resolved).1, valueType_of_reads value⟩
  | between resolved _ _ lower upper =>
    exact ⟨(declares_of_resolves resolved).1, valueType_of_reads lower,
      valueType_of_reads upper⟩
  | betweenVerbose resolved _ _ lower _ upper _ =>
    exact ⟨(declares_of_resolves resolved).1, valueType_of_reads lower,
      valueType_of_reads upper⟩
  | @oneOf a vs resolved _ values =>
    refine ⟨(declares_of_resolves resolved).1, fun v hv => ?_, ?_⟩
    · obtain ⟨t, ht⟩ := exists_reads_of_mem values (Query.mem_of_mem_distinct hv)
      exact valueType_of_reads ht
    · -- Values are only compared with earlier ones, which suffices by symmetry.
      refine (Query.pairwise_distinct vs).imp fun {v w} h => ⟨h, ?_⟩
      rw [Value.beq_comm]
      exact h
  | textTest op resolved _ _ _ =>
    obtain ⟨declared, supported⟩ := declares_of_resolves resolved
    exact ⟨declared, ValueType.supports_text.1 supported⟩
  | matchesRegex resolved _ _ _ compiled =>
    obtain ⟨declared, supported⟩ := declares_of_resolves resolved
    exact ⟨declared, ValueType.supports_text.1 supported, compiled⟩
  | has resolved _ _ => exact (declares_of_resolves resolved).1
  | all => exact rfl
  | none => exact rfl

/-- A node forms well-typed queries from well-typed ones. -/
theorem Node.everywhere_of_forms {inner : List (Spanned Query)} {q : Query}
    (hi : ∀ q' ∈ inner, q'.value.Everywhere (Query.Fits schema compiles type))
    (h : Forms ((schema.translator compiles type).setting source) n inner q) :
    q.Everywhere (Query.Fits schema compiles type) := by
  have all : Query.EverywhereAll (Query.Fits schema compiles type) (inner.map (·.value)) := by
    rw [Query.everywhereAll_iff]
    simpa using hi
  cases h with
  | and _ inside => exact ⟨by simpa [Query.Fits] using inside, all⟩
  | or _ inside => exact ⟨by simpa [Query.Fits] using inside, all⟩
  | @not q' _ inside => exact ⟨trivial, hi q' (by simp [inside])⟩
  | predicate accepts => exact Leaf.everywhere_of_accepts accepts

theorem Node.declares_of_readTerm {span : Span} {t : OrderTerm} {o : Order}
    (h : ((schema.translator compiles type).setting source).readTerm span t = .ok o) :
    schema.Declares o.key :=
  (Schema.declares_of_resolve (Setting.readTerm_eq_ok.1 h).1).1

end

/-! ## Translations -/

theorem Translation.eq_ok_of_result {done : Translation} {r : ParseResult}
    (h : done.result = .ok r) :
    (∃ q ∈ done.roots, q.value = r.query) ∧ r.options.orders = done.orders := by
  obtain ⟨q, single, rfl⟩ := result_eq_ok.1 h
  simp [single, options]

/-- Whatever the schema and the tree, a translation that succeeds hands over a query whose
every node fits the schema, and orders by declared attributes only. -/
theorem Schema.fits_of_translate (schema : Schema) (compiles : String → Bool)
    (type : ObjectType) (tree : ParseTree) (r : ParseResult)
    (h : (schema.translator compiles type).translate tree = .ok r) :
    r.query.Everywhere (Query.Fits schema compiles type) ∧
      ∀ o ∈ r.options.orders, schema.Declares o.key := by
  obtain ⟨done, translated, result⟩ := bind_eq_ok.1 h
  have default : { schema.translator compiles type with handlers := .without [] }.translation
      tree = .ok done := translated
  obtain ⟨reading, read, roots, orders⟩ := Translator.exists_reading_of_translation default
  obtain ⟨queries, terms⟩ := Node.forall_of_readingAll
    (P := fun q => q.Everywhere (Query.Fits schema compiles type))
    (O := fun o => schema.Declares o.key)
    (fun _ _ _ => Node.everywhere_of_forms) (fun _ _ _ => Node.declares_of_readTerm)
    tree.nodes read
  obtain ⟨⟨q, hq, same⟩, ho⟩ := Translation.eq_ok_of_result result
  rw [roots] at hq
  rw [← same, ho, orders]
  exact ⟨queries q hq, terms⟩

def Schema.people : Schema := ⟨"person", ofEntries [("age", .integer), ("name", .string)]⟩

/-- A membership with a value given twice, a pattern and an ordering clause. -/
def Schema.peopleTree : ParseTree where
  nodes := [.scope .and [
    { Node.leaf .oneOf "age" with values := [⟨"7", {}⟩, ⟨"+7", {}⟩, ⟨"8", {}⟩] },
    { Node.leaf .matchesRegex "name" with values := [⟨"'J.*'", {}⟩] },
    { kind := .orderBy, orderTerms := [⟨⟨"age", {}⟩, some ⟨"descending", {}⟩⟩] }]]

theorem Schema.fits_of_translate_people :
    ∃ r, (people.translator (· != "(") ⟨"person"⟩).translate peopleTree = .ok r ∧
      r.query.Everywhere (Query.Fits people (· != "(") ⟨"person"⟩) ∧
      ∀ o ∈ r.options.orders, people.Declares o.key :=
  ⟨_, rfl, fits_of_translate people (· != "(") ⟨"person"⟩ peopleTree _ rfl⟩

end FilterQuery
