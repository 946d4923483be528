import Std.Data.ExtTreeMap
import FilterQuery.Attribute

/-!
# The attribute registry

A registry holds attributes by name. Registering a name again replaces its attribute, and
names are listed in ascending order of their code points.
-/
namespace FilterQuery

/-- The attributes that queries may mention. -/
structure Registry where
  attributes : Std.ExtTreeMap String Attribute := ∅

namespace Registry

instance : EmptyCollection Registry := ⟨{}⟩

instance : Inhabited Registry := ⟨∅⟩

def get? (r : Registry) (name : String) : Option Attribute := r.attributes[name]?

def has (r : Registry) (name : String) : Bool := r.attributes.contains name

/-- The registered names, sorted. -/
def names (r : Registry) : List String :=
  r.attributes.keys.mergeSort fun n m => (compare n m).isLE

def size (r : Registry) : Nat := r.attributes.size

def isEmpty (r : Registry) : Bool := r.attributes.isEmpty

/-- The last registration of a name wins. -/
def register (r : Registry) (name : String) (t : ValueType) : Registry :=
  ⟨r.attributes.insert name ⟨name, t⟩⟩

def remove (r : Registry) (name : String) : Registry := ⟨r.attributes.erase name⟩

/-- The attribute under that name, if there is one, and the registry without it. -/
def extract (r : Registry) (name : String) : Option Attribute × Registry :=
  match r.attributes[name]? with
  | none => (none, r)
  | some a => (some a, r.remove name)

/-- Registers the pairs from left to right. -/
def ofList (ts : List (String × ValueType)) : Registry :=
  ts.foldl (fun r t => r.register t.1 t.2) ∅

/-- A name resolves when the attribute under it is of a type that has the capability. -/
def resolve (r : Registry) : Resolver := fun name capability =>
  match r.get? name with
  | none => .error (.unknown name)
  | some a =>
    if a.valueType.supports capability then .ok a
    else .error (.capabilityMismatch name a.valueType capability)

@[simp] theorem get?_empty (n : String) : (∅ : Registry).get? n = none := rfl

theorem get?_register (r : Registry) (n m : String) (t : ValueType) :
    (r.register n t).get? m = if n = m then some ⟨n, t⟩ else r.get? m := by
  simp only [get?, register, Std.ExtTreeMap.getElem?_insert, Std.LawfulEqCmp.compare_eq_iff_eq]

theorem get?_remove (r : Registry) (n m : String) :
    (r.remove n).get? m = if n = m then none else r.get? m := by
  simp only [get?, remove, Std.ExtTreeMap.getElem?_erase, Std.LawfulEqCmp.compare_eq_iff_eq]

/-- Registries are the same when the same is found under every name. -/
theorem ext_get? {r r' : Registry} (h : ∀ n, r.get? n = r'.get? n) : r = r' :=
  congrArg mk (Std.ExtTreeMap.ext_getElem? h)

theorem remove_eq_self {r : Registry} {n : String} (h : r.get? n = none) : r.remove n = r := by
  refine ext_get? fun m => ?_
  rw [get?_remove]
  split
  next same => rw [← same, h]
  next => rfl

@[simp] theorem extract_eq (r : Registry) (n : String) :
    r.extract n = (r.get? n, r.remove n) := by
  unfold extract
  split
  next absent => rw [remove_eq_self absent, get?, absent]
  next a present => rw [get?, present]

theorem has_eq (r : Registry) (n : String) : r.has n = (r.get? n).isSome := by
  rw [has, get?, Std.ExtTreeMap.isSome_getElem?_eq_contains]

theorem mem_names {r : Registry} {n : String} : n ∈ r.names ↔ r.has n := by
  rw [names, has, List.mem_mergeSort, Std.ExtTreeMap.mem_keys, Std.ExtTreeMap.contains_iff_mem]

@[simp] theorem length_names (r : Registry) : r.names.length = r.size := by
  rw [names, List.length_mergeSort, Std.ExtTreeMap.length_keys, size]

theorem resolve_eq_ok_iff {r : Registry} {n : String} {c : Capability} {a : Attribute} :
    r.resolve n c = .ok a ↔ r.get? n = some a ∧ a.valueType.supports c := by
  unfold resolve
  cases r.get? n with
  | none => simp
  | some b =>
    by_cases supported : b.valueType.supports c
    · simp only [if_pos supported, Except.ok.injEq, Option.some.injEq]
      exact ⟨fun same => ⟨same, same ▸ supported⟩, fun h => h.1⟩
    · simp only [if_neg supported, reduceCtorEq, Option.some.injEq, false_iff, not_and]
      rintro rfl
      exact supported

end Registry

end FilterQuery
