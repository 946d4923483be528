import FilterQuery.Proofs.WellTyped
import Mathlib.Data.List.Induction

/-!
# Membership sets

The values of a membership predicate are those that were given, without each one that
equals an earlier one that is kept. Equality is numeric on floats, so every NaN is kept,
and of a zero and a negative zero only the first is.
-/
namespace FilterQuery

namespace Query

/-- The value at the place is new: it equals none at the places before it that are kept. -/
def IsNew (vs : List Value) (kept : List Nat) (i : Nat) : Prop :=
  ∃ v, vs[i]? = some v ∧ ∀ j ∈ kept, j < i → ∀ w, vs[j]? = some w → (w == v) = false

/-- The places that are kept, in ascending order, are exactly those of new values. -/
structure Keeps (vs : List Value) (kept : List Nat) : Prop where
  ascending : kept.Pairwise (· < ·)
  mem_iff : ∀ i, i ∈ kept ↔ IsNew vs kept i

/-- The values at those places. -/
def valuesAt (vs : List Value) (kept : List Nat) : List Value := kept.filterMap (vs[·]?)

section
variable {vs : List Value} {kept : List Nat} {v : Value} {i : Nat}

theorem distinct_concat (vs : List Value) (v : Value) :
    distinct (vs ++ [v]) = addDistinct (distinct vs) v := distinct_append vs [v]

theorem IsNew.lt_length (h : IsNew vs kept i) : i < vs.length := by
  obtain ⟨v, here, -⟩ := h
  exact (List.getElem?_eq_some_iff.1 here).1

theorem Keeps.lt_length (h : Keeps vs kept) (hi : i ∈ kept) : i < vs.length :=
  ((h.mem_iff i).1 hi).lt_length

/-- What comes later has no say in which values are new. -/
theorem isNew_concat_of_lt (h : i < vs.length) (v : Value) (kept : List Nat) :
    IsNew (vs ++ [v]) kept i ↔ IsNew vs kept i := by
  have same {j : Nat} (hj : j < vs.length) : (vs ++ [v])[j]? = vs[j]? :=
    List.getElem?_append_left hj
  unfold IsNew
  rw [same h]
  refine exists_congr fun w => and_congr_right fun _ => forall₃_congr fun j _ before => ?_
  rw [same (Nat.lt_trans before h)]

theorem isNew_concat_length (h : Keeps vs kept) (v : Value) :
    IsNew (vs ++ [v]) kept vs.length ↔ ∀ w ∈ valuesAt vs kept, (w == v) = false := by
  have same {j : Nat} (hj : j ∈ kept) : (vs ++ [v])[j]? = vs[j]? :=
    List.getElem?_append_left (h.lt_length hj)
  simp only [IsNew, valuesAt, List.mem_filterMap, forall_exists_index, and_imp]
  constructor
  · rintro ⟨_, here, new⟩ w j hj there
    rw [List.getElem?_concat_length] at here
    cases here
    exact new j hj (h.lt_length hj) w (by rw [same hj, there])
  · intro new
    refine ⟨v, List.getElem?_concat_length, fun j hj _ w there => new w j hj ?_⟩
    rw [← same hj, there]

theorem valuesAt_concat (h : Keeps vs kept) (v : Value) :
    valuesAt (vs ++ [v]) kept = valuesAt vs kept :=
  List.filterMap_congr fun _ hj => List.getElem?_append_left (h.lt_length hj)

/-- A place has no say in what is new up to itself. -/
theorem isNew_of_le {m : Nat} (h : i ≤ m) : IsNew vs (kept ++ [m]) i ↔ IsNew vs kept i := by
  unfold IsNew
  refine exists_congr fun v => and_congr_right fun _ => ?_
  simp only [List.mem_append, List.mem_singleton]
  constructor
  · exact fun new j hj => new j (.inl hj)
  · rintro new j (hj | rfl) before
    · exact new j hj before
    · omega

/-- A value that equals one that is kept adds no place. -/
theorem Keeps.concat_seen (h : Keeps vs kept) (seen : ∃ w ∈ valuesAt vs kept, w == v) :
    Keeps (vs ++ [v]) kept where
  ascending := h.ascending
  mem_iff i := by
    by_cases inside : i < vs.length
    · rw [isNew_concat_of_lt inside, h.mem_iff]
    · refine iff_of_false (fun hi => inside (h.lt_length hi)) fun new => ?_
      have short := new.lt_length
      rw [List.length_append, List.length_singleton] at short
      obtain rfl : i = vs.length := by omega
      obtain ⟨w, hw, same⟩ := seen
      simp [(isNew_concat_length h v).1 new w hw] at same

/-- A value that equals none that is kept adds its place. -/
theorem Keeps.concat_fresh (h : Keeps vs kept) (fresh : ∀ w ∈ valuesAt vs kept, (w == v) = false) :
    Keeps (vs ++ [v]) (kept ++ [vs.length]) where
  ascending := by
    refine List.pairwise_append.2 ⟨h.ascending, List.pairwise_singleton _ _, fun j hj k hk => ?_⟩
    rw [List.mem_singleton.1 hk]
    exact h.lt_length hj
  mem_iff i := by
    rw [List.mem_append, List.mem_singleton]
    rcases Nat.lt_trichotomy i vs.length with inside | rfl | beyond
    · rw [isNew_of_le (Nat.le_of_lt inside), isNew_concat_of_lt inside, h.mem_iff]
      exact or_iff_left (Nat.ne_of_lt inside)
    · rw [isNew_of_le (Nat.le_refl _), isNew_concat_length h]
      exact iff_of_true (.inr rfl) fresh
    · refine iff_of_false ?_ fun new => ?_
      · rintro (hi | rfl)
        · have := h.lt_length hi
          omega
        · omega
      · have short := new.lt_length
        rw [List.length_append, List.length_singleton] at short
        omega

theorem exists_keeps (vs : List Value) :
    ∃ kept, Keeps vs kept ∧ distinct vs = valuesAt vs kept := by
  -- From the end: whether the last value is kept depends on what is kept of those before it.
  induction vs using List.reverseRecOn with
  | nil => exact ⟨[], ⟨.nil, by simp [IsNew]⟩, rfl⟩
  | append_singleton vs v ih =>
    obtain ⟨kept, keeps, values⟩ := ih
    rw [distinct_concat, addDistinct, values]
    split
    next seen =>
      rw [List.any_eq_true] at seen
      exact ⟨kept, keeps.concat_seen seen, (valuesAt_concat keeps v).symm⟩
    next fresh =>
      have differs : ∀ w ∈ valuesAt vs kept, (w == v) = false := by simpa using fresh
      refine ⟨kept ++ [vs.length], keeps.concat_fresh differs, ?_⟩
      have last : valuesAt (vs ++ [v]) [vs.length] = [v] := by simp [valuesAt]
      calc
        valuesAt vs kept ++ [v] =
            valuesAt (vs ++ [v]) kept ++ valuesAt (vs ++ [v]) [vs.length] := by
          rw [valuesAt_concat keeps, last]
        _ = valuesAt (vs ++ [v]) (kept ++ [vs.length]) := List.filterMap_append.symm

/-- Each value is kept, or equals one before it that is. -/
theorem Keeps.mem_or_eq (h : Keeps vs kept) (here : vs[i]? = some v) :
    i ∈ kept ∨ ∃ j ∈ kept, j < i ∧ ∃ w, vs[j]? = some w ∧ w == v := by
  by_contra neither
  obtain ⟨dropped, differs⟩ := not_or.1 neither
  refine dropped ((h.mem_iff i).2 ⟨v, here, fun j hj before w there => ?_⟩)
  by_contra same
  exact differs ⟨j, hj, before, w, there, by simpa using same⟩

theorem sublist_distinct (vs : List Value) : (distinct vs).Sublist vs := by
  induction vs using List.reverseRecOn with
  | nil => exact .slnil
  | append_singleton vs v ih =>
    rw [distinct_concat, addDistinct]
    split
    next => exact ih.trans (List.sublist_append_left vs [v])
    next => exact ih.append_right [v]

/-- Values of which none equals an earlier one are all kept. -/
theorem distinct_of_pairwise (h : vs.Pairwise fun v w => (v == w) = false) : distinct vs = vs := by
  induction vs using List.reverseRecOn with
  | nil => rfl
  | append_singleton vs v ih =>
    obtain ⟨before, -, last⟩ := List.pairwise_append.1 h
    have fresh : ¬ (vs.any (· == v)) := by
      simpa using fun w hw => last w hw v (List.mem_singleton_self v)
    rw [distinct_concat, ih before, addDistinct, if_neg fresh]

@[simp] theorem distinct_distinct (vs : List Value) : distinct (distinct vs) = distinct vs :=
  distinct_of_pairwise (pairwise_distinct vs)

theorem distinct_append_left (xs ys : List Value) :
    distinct (distinct xs ++ ys) = distinct (xs ++ ys) := by
  rw [distinct_append, distinct_append, distinct_distinct]

end

/-- A membership predicate has the values at the places of new values and no others: a
sublist of what it was given, in which no value equals another, and to which giving it its
own values adds nothing. Values that follow meet the ones that were kept. A node has the
values that its tokens are read as, in their order, and nothing else decides its set. -/
theorem isIn_spec :
    (∀ (a : Attribute) (vs : List Value), ∃ kept, Keeps vs kept ∧
      isIn a vs = .oneOf a (valuesAt vs kept) ∧
      (valuesAt vs kept).Sublist vs ∧
      ((valuesAt vs kept).Pairwise fun v w => (v == w) = false ∧ (w == v) = false) ∧
      (∀ i v, vs[i]? = some v →
        i ∈ kept ∨ ∃ j ∈ kept, j < i ∧ ∃ w, vs[j]? = some w ∧ w == v) ∧
      isIn a (valuesAt vs kept) = isIn a vs ∧
      ∀ ws, isIn a (vs ++ ws) = isIn a (valuesAt vs kept ++ ws)) ∧
    ∀ (s : Setting) (n : Node) (build : Leaf.Builder) (q : Query), n.kind = .oneOf →
      Handlers.default.get? n.kind = some (.leaf build) → build s n = .ok q →
      ∃ a vs, List.Forall₂ (Leaf.Reads s a) n.values vs ∧ q = isIn a vs := by
  refine ⟨fun a vs => ?_, fun s n build q kind handler made => ?_⟩
  · obtain ⟨kept, keeps, values⟩ := exists_keeps vs
    refine ⟨kept, keeps, ?_⟩
    rw [← values]
    refine ⟨rfl, sublist_distinct vs, ?_, fun i v => keeps.mem_or_eq, ?_, fun ws => ?_⟩
    · exact (pairwise_distinct vs).imp fun differ => ⟨differ, by rw [Value.beq_comm, differ]⟩
    · rw [isIn, isIn, distinct_distinct]
    · rw [isIn, isIn, distinct_append_left]
  · rw [kind] at handler
    cases handler
    obtain ⟨a, vs, -, -, read, rfl⟩ := Leaf.oneOf_eq_ok.1 made
    exact ⟨a, vs, read, rfl⟩

/-- Every name is an attribute that holds a float. -/
def floats : Setting where
  resolver name _ := .ok ⟨name, .float⟩
  converter := Literal.convert
  compiles _ := true
  objectType := ⟨"box"⟩

/-- Two NaNs, which differ, and two zeros, which do not. -/
def specials : Node :=
  { Node.leaf .oneOf "size" with
    values := [⟨"NaN", {}⟩, ⟨"0.0", {}⟩, ⟨"-0.0", {}⟩, ⟨"'nan'", {}⟩] }

theorem isIn_spec_specials :
    ∃ q vs, Leaf.oneOf floats specials = .ok q ∧ q = .oneOf ⟨"size", .float⟩ vs ∧
      vs.map Value.text = ["NaN", "0.0", "NaN"] ∧
      ∃ a ws, List.Forall₂ (Leaf.Reads floats a) specials.values ws ∧ q = isIn a ws := by
  refine ⟨_, _, rfl, rfl, ?_, ?_⟩
  · decide +kernel
  · exact isIn_spec.2 floats specials Leaf.oneOf _ rfl rfl rfl

end Query

end FilterQuery
