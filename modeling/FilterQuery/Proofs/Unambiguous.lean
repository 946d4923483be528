import FilterQuery.Proofs.ValueText
import FilterQuery.Proofs.WellTyped
import FilterQuery.Query.Notation

/-!
# One query for a text

The notation of a query says which query it is, given the schema that its attributes come
from: the name tells what stands between the parentheses, and each argument shows where it
ends. Only a NaN, which differs from itself, must not occur.
-/
namespace FilterQuery

/-! ## Lists of arguments -/

section
variable {α : Type} {f : α → String} {x y : α} {xs ys : List α} {r r' : List Char}

/-- The arguments after the first one. -/
def furtherArguments (f : α → String) (xs : List α) : List Char :=
  xs.flatMap fun x => ',' :: ' ' :: (f x).toList

theorem toList_intercalate_cons (f : α → String) (s : String) (xs : List α) :
    (", ".intercalate (s :: xs.map f)).toList = s.toList ++ furtherArguments f xs := by
  induction xs generalizing s with
  | nil => simp [furtherArguments]
  | cons x xs ih =>
    rw [List.map_cons, String.intercalate_cons_cons, String.toList_append, String.toList_append, ih]
    simp [furtherArguments]

/-- The texts of two arguments show where they end and which arguments they are. -/
def Apart (f : α → String) (x y : α) : Prop :=
  ∀ r r', Value.Follows r → Value.Follows r' → (f x).toList ++ r = (f y).toList ++ r' →
    x = y ∧ r = r'

theorem follows_furtherArguments (f : α → String) (xs : List α) (r : List Char) :
    Value.Follows (furtherArguments f xs ++ ')' :: r) := by
  cases xs with
  | nil => exact ⟨')', rfl, .inr rfl⟩
  | cons x xs => exact ⟨',', rfl, .inl rfl⟩

theorem furtherArguments_inj (apart : ∀ x ∈ xs, ∀ y ∈ ys, Apart f x y)
    (h : furtherArguments f xs ++ ')' :: r = furtherArguments f ys ++ ')' :: r') :
    xs = ys ∧ r = r' := by
  induction xs generalizing ys with
  | nil =>
    cases ys with
    | nil => exact ⟨rfl, (List.cons.inj h).2⟩
    | cons y ys => simp [furtherArguments] at h
  | cons x xs ih =>
    cases ys with
    | nil => simp [furtherArguments] at h
    | cons y ys =>
      simp only [furtherArguments, List.flatMap_cons, List.cons_append, List.append_assoc,
        List.cons.injEq, true_and] at h
      obtain ⟨rfl, tail⟩ := apart x (by simp) y (by simp) _ _
        (follows_furtherArguments f xs r) (follows_furtherArguments f ys r') h
      obtain ⟨rfl, rest⟩ := ih (fun x hx y hy => apart x (by simp [hx]) y (by simp [hy])) tail
      exact ⟨rfl, rest⟩

theorem arguments_inj (apart : ∀ x ∈ xs, ∀ y ∈ ys, Apart f x y)
    (started : ∀ x, x ∈ xs ∨ x ∈ ys → ∀ r r', (f x).toList ++ r ≠ ')' :: r')
    (h : (", ".intercalate (xs.map f)).toList ++ ')' :: r =
      (", ".intercalate (ys.map f)).toList ++ ')' :: r') : xs = ys ∧ r = r' := by
  cases xs with
  | nil =>
    cases ys with
    | nil => simpa using h
    | cons y ys =>
      rw [List.map_cons, toList_intercalate_cons, List.append_assoc] at h
      exact absurd h.symm (started y (by simp) _ _)
  | cons x xs =>
    cases ys with
    | nil =>
      rw [List.map_cons, toList_intercalate_cons, List.append_assoc] at h
      exact absurd h (started x (by simp) _ _)
    | cons y ys =>
      simp only [List.map_cons, toList_intercalate_cons, List.append_assoc] at h
      obtain ⟨rfl, tail⟩ := apart x (by simp) y (by simp) _ _
        (follows_furtherArguments f xs r) (follows_furtherArguments f ys r') h
      obtain ⟨rfl, rest⟩ :=
        furtherArguments_inj (fun x hx y hy => apart x (by simp [hx]) y (by simp [hy])) tail
      exact ⟨rfl, rest⟩

end

theorem Schema.Declares.unique {schema : Schema} {a b : Attribute} (ha : schema.Declares a)
    (hb : schema.Declares b) (names : a.name = b.name) : a = b := by
  unfold Declares at ha hb
  obtain ⟨n, t⟩ := a
  obtain ⟨m, u⟩ := b
  simp_all

theorem Value.beq_self {v : Value} (hv : v ≠ .float .nan) : (v == v) = true := by
  cases v with
  | float x =>
    cases x with
    | nan => exact absurd rfl hv
    | _ => simp [BEq.beq, Value.eq, Binary64.eq]
  | _ => simp [BEq.beq, Value.eq]

theorem Value.beq_self_list {vs : List Value} (h : ∀ v ∈ vs, v ≠ .float .nan) :
    (vs == vs) = true := by
  induction vs with
  | nil => rfl
  | cons v vs ih =>
    rw [List.cons_beq_cons, Bool.and_eq_true]
    exact ⟨beq_self (h v (by simp)), ih fun w hw => h w (by simp [hw])⟩

namespace Query

/-! ## What the parentheses hold -/

/-- What stands between the parentheses of a query. -/
inductive Contents
  | inner (qs : List Query)
  | predicate (a : Attribute) (vs : List Value)
  | selection (t : ObjectType)

def contents : Query → Contents
  | junction _ qs => .inner qs
  | not q => .inner [q]
  | compare _ a v => .predicate a [v]
  | between a lower upper =>
    .predicate a
      (if lower.inclusive ∧ upper.inclusive then [lower.value, upper.value]
      else [lower.value, .bool lower.inclusive, upper.value, .bool upper.inclusive])
  | oneOf a vs => .predicate a vs
  | text _ a s => .predicate a [.string s]
  | matchesRegex a p => .predicate a [.string p.source]
  | has a => .predicate a []
  | all t | none t => .selection t

/-- The construct that makes such a query, with the short form of a range for both. -/
def kind : Query → NodeKind
  | junction .and _ => .and
  | junction .or _ => .or
  | not _ => .not
  | compare op _ _ => Leaf.comparisonKind op
  | between .. => .between
  | oneOf .. => .oneOf
  | text op _ _ => Leaf.textKind op
  | matchesRegex .. => .matchesRegex
  | has _ => .has
  | all _ => .all
  | none _ => .none

/-- The query of that kind with those contents. -/
def ofContents? : NodeKind → Contents → Option Query
  | .and, .inner qs => some (.junction .and qs)
  | .or, .inner qs => some (.junction .or qs)
  | .not, .inner [q] => some (.not q)
  | .equal, .predicate a [v] => some (.compare .equal a v)
  | .lessThan, .predicate a [v] => some (.compare .lessThan a v)
  | .lessThanOrEqual, .predicate a [v] => some (.compare .lessThanOrEqual a v)
  | .greaterThan, .predicate a [v] => some (.compare .greaterThan a v)
  | .greaterThanOrEqual, .predicate a [v] => some (.compare .greaterThanOrEqual a v)
  | .between, .predicate a [l, u] => some (.between a ⟨l, true⟩ ⟨u, true⟩)
  | .between, .predicate a [l, .bool b, u, .bool c] => some (.between a ⟨l, b⟩ ⟨u, c⟩)
  | .oneOf, .predicate a vs => some (.oneOf a vs)
  | .startsWith, .predicate a [.string s] => some (.text .startsWith a s)
  | .endsWith, .predicate a [.string s] => some (.text .endsWith a s)
  | .contains, .predicate a [.string s] => some (.text .contains a s)
  | .isContainedIn, .predicate a [.string s] => some (.text .isContainedIn a s)
  | .matchesRegex, .predicate a [.string s] => some (.matchesRegex a ⟨s⟩)
  | .has, .predicate a [] => some (.has a)
  | .all, .selection t => some (.all t)
  | .none, .selection t => some (.none t)
  | _, _ => .none

theorem ofContents?_contents (q : Query) : ofContents? q.kind q.contents = some q := by
  cases q with
  | junction op qs => cases op <;> rfl
  | compare op a v => cases op <;> rfl
  | between a lower upper =>
    obtain ⟨l, b⟩ := lower
    obtain ⟨u, c⟩ := upper
    cases b <;> cases c <;> rfl
  | text op a s => cases op <;> rfl
  | _ => rfl

theorem eq_of_contents_eq {q q' : Query} (kinds : q.kind = q'.kind)
    (contents : q.contents = q'.contents) : q = q' := by
  have read := ofContents?_contents q
  rw [kinds, contents, ofContents?_contents q'] at read
  exact (Option.some.inj read).symm

theorem name_eq (q : Query) : q.name = q.kind.name := by
  cases q with
  | junction op qs => cases op <;> rfl
  | compare op a v => cases op <;> rfl
  | text op a s => cases op <;> rfl
  | _ => rfl

/-- The kind tells what the parentheses hold. -/
theorem contents_spec (q : Query) :
    match q.contents with
    | .inner _ => q.kind.isScope = true
    | .predicate _ _ => q.kind.isScope = false ∧ q.kind ≠ .all ∧ q.kind ≠ .none
    | .selection _ => q.kind.isScope = false ∧ (q.kind = .all ∨ q.kind = .none) := by
  cases q with
  | junction op qs => cases op <;> rfl
  | not q => rfl
  | compare op a v => cases op <;> exact ⟨rfl, nofun, nofun⟩
  | text op a s => cases op <;> exact ⟨rfl, nofun, nofun⟩
  | all t => exact ⟨rfl, .inl rfl⟩
  | none t => exact ⟨rfl, .inr rfl⟩
  | _ => exact ⟨rfl, nofun, nofun⟩

def Contents.text : Contents → String
  | inner qs => ", ".intercalate (qs.map render)
  | predicate a vs => ", ".intercalate (Text.quoted a.name :: vs.map Value.text)
  | selection t => t.name

theorem renderAll_eq_map (qs : List Query) : renderAll qs = qs.map render := by
  induction qs with
  | nil => simp [renderAll]
  | cons q qs ih => simp [renderAll, ih]

theorem render_eq (q : Query) : q.render = q.kind.name ++ "(" ++ q.contents.text ++ ")" := by
  rw [← name_eq]
  cases q with
  | junction op qs => simp [render, applied, contents, Contents.text, name, renderAll_eq_map]
  | not q => simp [render, applied, contents, Contents.text, name]
  | between a lower upper =>
    simp only [render, applied, contents, Contents.text, name, boundArguments]
    split <;> rfl
  | _ => simp [render, applied, contents, Contents.text, name, Value.text]

theorem not_paren_mem_name (k : NodeKind) : ∀ c ∈ k.name.toList, (c != '(') = true := by
  cases k <;> simp [NodeKind.name]

/-! ## One query -/

/-- The node's attribute is declared by the schema, it selects the schema's objects, and
no value is a NaN. -/
def Legible (schema : Schema) : Query → Prop
  | junction .. | not _ => True
  | compare _ a v => schema.Declares a ∧ v ≠ .float .nan
  | between a lower upper =>
    schema.Declares a ∧ lower.value ≠ .float .nan ∧ upper.value ≠ .float .nan
  | oneOf a vs => schema.Declares a ∧ ∀ v ∈ vs, v ≠ .float .nan
  | text _ a _ | matchesRegex a _ | has a => schema.Declares a
  | all t | none t => t = ⟨schema.objectType⟩

theorem Legible.contents {schema : Schema} {q : Query} (h : q.Legible schema) :
    match q.contents with
    | .inner _ => True
    | .predicate a vs => schema.Declares a ∧ ∀ v ∈ vs, v ≠ .float .nan
    | .selection t => t = ⟨schema.objectType⟩ := by
  cases q with
  | between a lower upper =>
    refine ⟨h.1, fun v hv => ?_⟩
    split at hv <;> simp at hv
    · rcases hv with rfl | rfl
      · exact h.2.1
      · exact h.2.2
    · rcases hv with rfl | rfl | rfl | rfl
      · exact h.2.1
      · nofun
      · exact h.2.2
      · nofun
  | compare op a v => exact ⟨h.1, by simpa using h.2⟩
  | oneOf a vs => exact h
  | text op a s => exact ⟨h, by simp⟩
  | matchesRegex a p => exact ⟨h, by simp⟩
  | has a => exact ⟨h, by simp⟩
  | all t => exact h
  | none t => exact h
  | _ => trivial

theorem everywhere_iff {P : Query → Prop} {q : Query} :
    q.Everywhere P ↔ P q ∧ ∀ c ∈ q.children, c.Everywhere P := by
  cases q <;> simp [Everywhere, everywhereAll_iff, children]

mutual

/-- What holds of a query when it holds of all directly beneath it holds of every query. -/
theorem induction_children {P : Query → Prop} (step : ∀ q, (∀ c ∈ q.children, P c) → P q) :
    ∀ q, P q
  | junction op qs => step _ (induction_children_all step qs)
  | not q => step _ (by simpa [children] using induction_children step q)
  | compare .. | between .. | oneOf .. | text .. | matchesRegex .. | has _ | all _ | none _ =>
    step _ (by simp [children])

theorem induction_children_all {P : Query → Prop} (step : ∀ q, (∀ c ∈ q.children, P c) → P q) :
    ∀ qs : List Query, ∀ q ∈ qs, P q
  | [] => by simp
  | q :: qs => by
    simpa using ⟨induction_children step q, induction_children_all step qs⟩

end

theorem Everywhere.imp {P Q : Query → Prop} {q : Query} (h : q.Everywhere P)
    (step : ∀ c, P c → Q c) : q.Everywhere Q := by
  induction q using induction_children with
  | step q ih =>
    obtain ⟨self, below⟩ := everywhere_iff.1 h
    exact everywhere_iff.2 ⟨step q self, fun c hc => ih c hc (below c hc)⟩

/-- The values that the node itself compares with. -/
def values : Query → List Value
  | compare _ _ v => [v]
  | between _ lower upper => [lower.value, upper.value]
  | oneOf _ vs => vs
  | _ => []

theorem Legible.ne_nan {schema : Schema} {q : Query} (h : q.Legible schema) :
    ∀ v ∈ q.values, v ≠ .float .nan := by
  cases q with
  | compare op a v => simpa [values] using h.2
  | between a lower upper => simpa [values] using h.2
  | oneOf a vs => exact h.2
  | _ => simp [values]

section
variable {schema : Schema} {q q' : Query} {r r' : List Char}

theorem kind_eq_of_render_append (h : q.render.toList ++ r = q'.render.toList ++ r') :
    q.kind = q'.kind ∧
      q.contents.text.toList ++ ')' :: r = q'.contents.text.toList ++ ')' :: r' := by
  simp only [render_eq, String.toList_append, List.append_assoc] at h
  obtain ⟨names, rest⟩ := Text.eq_of_append_eq (not_paren_mem_name q.kind)
    (not_paren_mem_name q'.kind) (by simp) (by simp) h
  refine ⟨?_, by simpa using rest⟩
  rw [← NodeKind.ofName_name q.kind, String.toList_inj.1 names, NodeKind.ofName_name]

theorem render_append_ne_close (q : Query) : q.render.toList ++ r ≠ ')' :: r' := by
  intro h
  rw [render_eq] at h
  cases hk : q.kind <;> simp [hk, NodeKind.name] at h

theorem children_eq_of_contents {qs : List Query} (h : q.contents = .inner qs) :
    q.children = qs := by
  cases q <;> simp_all [contents, children]

theorem contents_inj (h : q.Legible schema) (h' : q'.Legible schema) (kinds : q.kind = q'.kind)
    (apart : ∀ c ∈ q.children, ∀ c' ∈ q'.children, Apart render c c')
    (same : q.contents.text.toList ++ ')' :: r = q'.contents.text.toList ++ ')' :: r') :
    q.contents = q'.contents ∧ r = r' := by
  have spec := contents_spec q
  have spec' := contents_spec q'
  have legible := h.contents
  have legible' := h'.contents
  rw [← kinds] at spec'
  cases hc : q.contents <;> cases hc' : q'.contents <;> rw [hc] at spec legible same <;>
    rw [hc'] at spec' legible' same
  case inner.inner qs qs' =>
    rw [children_eq_of_contents hc, children_eq_of_contents hc'] at apart
    obtain ⟨rfl, rest⟩ :=
      arguments_inj apart (fun c _ _ _ => render_append_ne_close c) same
    exact ⟨rfl, rest⟩
  case predicate.predicate a vs a' vs' =>
    obtain ⟨declared, values⟩ := legible
    obtain ⟨declared', values'⟩ := legible'
    simp only [Contents.text, toList_intercalate_cons, List.append_assoc] at same
    obtain ⟨names, tail⟩ := Text.quoted_append_inj same
    have attributes : a = a' := declared.unique declared' names
    obtain ⟨rfl, rest⟩ := furtherArguments_inj (f := Value.text)
      (fun v hv w hw _ _ hr hr' => Value.text_append_inj (values v hv) (values' w hw) hr hr') tail
    exact ⟨by rw [attributes], rest⟩
  case selection.selection t t' =>
    rw [legible, legible'] at same ⊢
    exact ⟨rfl, by simpa using same⟩
  -- The kinds of different contents differ.
  all_goals simp_all

theorem eq_of_render_append (h : q.Everywhere (Legible schema))
    (h' : q'.Everywhere (Legible schema))
    (same : q.render.toList ++ r = q'.render.toList ++ r') : q = q' ∧ r = r' := by
  induction q using induction_children generalizing q' r r' with
  | step q ih =>
    obtain ⟨self, below⟩ := everywhere_iff.1 h
    obtain ⟨self', below'⟩ := everywhere_iff.1 h'
    obtain ⟨kinds, inside⟩ := kind_eq_of_render_append same
    obtain ⟨contents, rest⟩ := contents_inj self self' kinds
      (fun c hc c' hc' _ _ _ _ => ih c hc (below c hc) (below' c' hc')) inside
    exact ⟨eq_of_contents_eq kinds contents, rest⟩

theorem eqAll_self {qs : List Query} (h : ∀ q ∈ qs, (q == q) = true) : eqAll qs qs = true := by
  induction qs with
  | nil => rfl
  | cons q qs ih =>
    rw [eqAll, Bool.and_eq_true]
    exact ⟨h q (by simp), ih fun c hc => h c (by simp [hc])⟩

/-- Queries without a NaN equal themselves. -/
theorem beq_self_of_values (h : q.Everywhere fun c => ∀ v ∈ c.values, v ≠ .float .nan) :
    (q == q) = true := by
  induction q using induction_children with
  | step q ih =>
    obtain ⟨self, below⟩ := everywhere_iff.1 h
    have inside : ∀ c ∈ q.children, (c == c) = true := fun c hc => ih c hc (below c hc)
    change q.eq q = true
    cases q with
    | junction op qs =>
      rw [eq, BEq.rfl, Bool.true_and]
      exact eqAll_self inside
    | not q => exact inside q (by simp [children])
    | compare op a v => simp [eq, Value.beq_self (self v (by simp [values]))]
    | between a lower upper =>
      simp [eq, Value.beq_self (self lower.value (by simp [values])),
        Value.beq_self (self upper.value (by simp [values]))]
    | oneOf a vs =>
      have same : (vs == vs) = true := Value.beq_self_list self
      simp [eq, same]
    | _ => simp [eq]

theorem beq_self (h : q.Everywhere (Legible schema)) : (q == q) = true :=
  beq_self_of_values (h.imp fun _ => Legible.ne_nan)

end

/-- Two queries over the attributes of one schema and its object type are the same if their
texts are. -/
theorem eq_of_render_eq (schema : Schema) (q q' : Query)
    (legible : q.Everywhere (Legible schema)) (legible' : q'.Everywhere (Legible schema))
    (same : q.render = q'.render) : q = q' ∧ (q == q') = true := by
  have texts : q.render.toList ++ [] = q'.render.toList ++ [] := by rw [same]
  obtain ⟨rfl, -⟩ := eq_of_render_append legible legible' texts
  exact ⟨rfl, beq_self legible⟩

end Query

/-- Names that look like notation themselves. -/
def Schema.oddNames : Schema :=
  ⟨"box), none(lid", ofEntries [("si\"ze", .float), ("in(", .string)]⟩

namespace Query

/-- A selection, a half-open range with ends of two types, and a set of one text. -/
def oddBoxes : Query :=
  .junction .and
    [.all ⟨"box), none(lid"⟩,
      .not (.between ⟨"si\"ze", .float⟩ ⟨.float (.zero true), false⟩ ⟨.string "0.0)", true⟩),
      .oneOf ⟨"in(", .string⟩ [.string "a\", \"b"]]

theorem legible_oddBoxes : oddBoxes.Everywhere (Legible Schema.oddNames) :=
  ⟨trivial, rfl, ⟨trivial, rfl, nofun, nofun⟩, ⟨rfl, by simp⟩, trivial⟩

theorem eq_of_render_eq_oddBoxes :
    let set := isIn ⟨"in(", .string⟩ [.string "a\", \"b", .string "a\", \"b"]
    oddBoxes.render = (junction .and (oddBoxes.children.take 2 ++ [set])).render ∧
      oddBoxes = junction .and (oddBoxes.children.take 2 ++ [set]) :=
  ⟨rfl, (eq_of_render_eq Schema.oddNames _ _ legible_oddBoxes legible_oddBoxes rfl).1⟩

end Query

end FilterQuery
