import FilterQuery.Proofs.ByteOrder
import FilterQuery.Schema

/-!
# The declarations of a schema

The registry of a schema binds the names that the schema declares, each to the type that
it declares, and nothing else. It lists them in the order of their bytes, and resolves a name
to what is declared of it.
-/
namespace FilterQuery

/-- The types of the attributes, by the names that these are found under. -/
def Registry.types (r : Registry) : Std.ExtTreeMap String ValueType :=
  r.attributes.map fun _ a => a.valueType

theorem Registry.getElem?_types (r : Registry) (n : String) :
    r.types[n]? = (r.get? n).map (·.valueType) := Std.ExtTreeMap.getElem?_map

theorem Registry.types_register (r : Registry) (n : String) (t : ValueType) :
    (r.register n t).types = r.types.insert n t := by
  refine Std.ExtTreeMap.ext_getElem? fun m => ?_
  simp only [getElem?_types, get?_register, Std.ExtTreeMap.getElem?_insert,
    Std.compare_eq_iff_eq]
  split <;> rfl

/-- Registering pairs whose names differ binds each name to its type. -/
theorem Registry.get?_foldl_register {ts : List (String × ValueType)}
    (distinct : ts.Pairwise fun t u => t.1 ≠ u.1) (r : Registry) (n : String) :
    (ts.foldl (fun r t => r.register t.1 t.2) r).get? n =
      match ts.find? (·.1 == n) with
      | some t => some ⟨n, t.2⟩
      | none => r.get? n := by
  induction ts generalizing r with
  | nil => rfl
  | cons t ts ih =>
    obtain ⟨first, rest⟩ := List.pairwise_cons.1 distinct
    rw [List.foldl_cons, ih rest]
    by_cases ht : t.1 = n
    · have later : ts.find? (·.1 == n) = none := by
        rw [List.find?_eq_none]
        intro u hu
        simpa [ht] using Ne.symm (first u hu)
      simp [later, ht, get?_register]
    · simp [ht, get?_register]

namespace Schema

/-- The schema declares the attribute's name with the attribute's type. -/
def Declares (s : Schema) (a : Attribute) : Prop := s.attributes[a.name]? = some a.valueType

theorem get?_registry (s : Schema) (n : String) :
    s.registry.get? n = s.attributes[n]?.map fun t => ⟨n, t⟩ := by
  have distinct : s.attributes.toList.Pairwise fun t u => t.1 ≠ u.1 :=
    s.attributes.distinct_keys_toList.imp fun h => by simpa using h
  rw [registry, Registry.ofList, Registry.get?_foldl_register distinct]
  split
  next t ht =>
    have hn : t.1 = n := by simpa using List.find?_some ht
    have hm : (t.1, t.2) ∈ s.attributes.toList := List.mem_of_find?_eq_some ht
    rw [Std.ExtTreeMap.mem_toList_iff_getElem?_eq_some, hn] at hm
    rw [hm]
    rfl
  next ht =>
    rw [List.find?_eq_none] at ht
    cases hn : s.attributes[n]? with
    | none => rfl
    | some t =>
      have hm := Std.ExtTreeMap.mem_toList_iff_getElem?_eq_some.2 hn
      exact absurd (beq_self_eq_true n) (ht _ hm)

/-- The registry binds what the schema declares. -/
theorem types_registry (s : Schema) : s.registry.types = s.attributes := by
  refine Std.ExtTreeMap.ext_getElem? fun n => ?_
  rw [Registry.getElem?_types, get?_registry]
  cases s.attributes[n]? <;> rfl

section
variable {s : Schema} {n : String} {c : Capability}

theorem mem_names_registry :
    n ∈ s.registry.names ↔ ∃ t, s.attributes[n]? = some t := by
  rw [Registry.mem_names, Registry.has_eq, get?_registry, Option.isSome_map,
    Option.isSome_iff_exists]

theorem names_registry_ascending (s : Schema) :
    s.registry.names.Pairwise fun a b => Text.bytes a < Text.bytes b :=
  s.registry.names_ascending

theorem resolve_eq (s : Schema) (n : String) (c : Capability) :
    s.registry.resolve n c =
      match s.attributes[n]? with
      | none => .error (.unknown n)
      | some t => if t.supports c then .ok ⟨n, t⟩ else .error (.capabilityMismatch n t c) := by
  rw [Registry.resolve, get?_registry]
  cases s.attributes[n]? <;> rfl

theorem resolve_eq_ok_iff {a : Attribute} :
    s.registry.resolve n c = .ok a ↔ a.name = n ∧ s.Declares a ∧ a.valueType.supports c := by
  rw [Registry.resolve_eq_ok_iff, get?_registry, ← and_assoc, Option.map_eq_some_iff, Declares]
  refine and_congr_left fun _ => ?_
  constructor
  · rintro ⟨t, declared, rfl⟩
    exact ⟨rfl, declared⟩
  · rintro ⟨rfl, declared⟩
    exact ⟨a.valueType, declared, rfl⟩

theorem resolve_eq_unknown_iff :
    s.registry.resolve n c = .error (.unknown n) ↔ s.attributes[n]? = none := by
  rw [resolve_eq]
  cases s.attributes[n]? with
  | none => simp
  | some t => by_cases supported : t.supports c <;> simp [supported]

theorem resolve_eq_mismatch_iff {t : ValueType} :
    s.registry.resolve n c = .error (.capabilityMismatch n t c) ↔
      s.attributes[n]? = some t ∧ ¬ t.supports c := by
  rw [resolve_eq]
  constructor
  · intro h
    split at h
    next => cases h
    next u declared =>
      split at h
      next => cases h
      next unsupported =>
        cases h
        exact ⟨declared, unsupported⟩
  · rintro ⟨declared, unsupported⟩
    simp [declared, unsupported]

theorem declares_of_resolve {a : Attribute} (h : s.registry.resolve n c = .ok a) :
    s.Declares a ∧ a.valueType.supports c := (resolve_eq_ok_iff.1 h).2

end

end Schema

end FilterQuery
