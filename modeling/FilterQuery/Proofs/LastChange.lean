import FilterQuery.Proofs.ByteOrder
import Mathlib.Data.List.Induction

/-!
# The last change of a name decides

Names are registered and removed in any order, and more than once. What a registry holds
under a name is then told by the last change that concerns the name, whatever came before it
and whatever happened to other names: an attribute, when that change registered one, of the
type that it was registered with. An attribute is stored under its own name, which every
change preserves. All that can be observed of a name follows from what is found under it.
-/
namespace FilterQuery

namespace Registry

/-- Registering and removing are all that changes a registry; registering in a chain is to
register one name after another. -/
inductive Change
  | register (name : String) (type : ValueType)
  | remove (name : String)
  deriving DecidableEq

namespace Change

/-- The name that the change concerns. -/
def name : Change → String
  | register name _ | remove name => name

/-- The attribute that the change leaves under the name. -/
def attribute? : Change → Option Attribute
  | register name type => some ⟨name, type⟩
  | remove _ => none

end Change

/-- The registry after a change. -/
def change (r : Registry) : Change → Registry
  | .register name type => r.register name type
  | .remove name => (r.extract name).2

/-- The registry after a number of changes. -/
def after (r : Registry) (cs : List Change) : Registry := cs.foldl change r

/-- The last of the changes that concern the name. -/
def last? (n : String) (cs : List Change) : Option Change := (cs.filter (·.name = n)).getLast?

section
variable {r r' : Registry} {n : String} {c : Change} {cs : List Change} {a : Attribute}

theorem after_concat (r : Registry) (cs : List Change) (c : Change) :
    r.after (cs ++ [c]) = (r.after cs).change c := by simp [after]

theorem last?_concat (n : String) (cs : List Change) (c : Change) :
    last? n (cs ++ [c]) = if c.name = n then some c else last? n cs := by
  by_cases concerns : c.name = n <;> simp [last?, concerns]

theorem name_of_last? (h : last? n cs = some c) : c.name = n := by
  have concerned : c ∈ cs.filter (·.name = n) := List.mem_of_getLast? h
  simpa using (List.mem_filter.1 concerned).2

/-! ## Stored names -/

/-- Every attribute has the name that it is stored under. -/
def Named (r : Registry) : Prop := ∀ n a, r.get? n = some a → a.name = n

theorem named_empty : (∅ : Registry).Named := fun _ _ h => nomatch h

theorem Named.change (h : r.Named) (c : Change) : (r.change c).Named := by
  intro m b found
  cases c with
  | register name type =>
    rw [Registry.change, get?_register] at found
    split at found
    next same =>
      cases found
      exact same
    next => exact h m b found
  | remove name =>
    rw [Registry.change, extract_eq, get?_remove] at found
    split at found
    next => cases found
    next => exact h m b found

theorem Named.after (h : r.Named) (cs : List Change) : (r.after cs).Named := by
  induction cs generalizing r with
  | nil => exact h
  | cons c cs ih => exact ih (h.change c)

/-! ## What is found after a run -/

theorem get?_change (r : Registry) (c : Change) (n : String) :
    (r.change c).get? n = if c.name = n then c.attribute? else r.get? n := by
  cases c with
  | register name type =>
    rw [change, get?_register]
    by_cases same : name = n <;> simp [Change.name, Change.attribute?, same]
  | remove name => rw [change, extract_eq, get?_remove]; rfl

/-- The last change that concerns a name tells what is found for it; without one, what was
found before still is. -/
theorem get?_after (r : Registry) (cs : List Change) (n : String) :
    (r.after cs).get? n = ((last? n cs).map Change.attribute?).getD (r.get? n) := by
  induction cs using List.reverseRecOn with
  | nil => rfl
  | append_singleton cs c ih =>
    rw [after_concat, get?_change, last?_concat]
    split
    next => rfl
    next => exact ih

/-- In a registry that started empty, nothing is found but what was registered last. -/
theorem get?_after_empty_eq_some_iff :
    ((∅ : Registry).after cs).get? n = some a ↔
      a.name = n ∧ last? n cs = some (.register n a.valueType) := by
  have told := get?_after ∅ cs n
  rw [get?_empty] at told
  constructor
  · intro found
    refine ⟨named_empty.after cs n a found, ?_⟩
    rw [told] at found
    cases latest : last? n cs with
    | none => simp [latest] at found
    | some c =>
      have concerns : c.name = n := name_of_last? latest
      cases c with
      | register name type =>
        obtain rfl : (⟨name, type⟩ : Attribute) = a := by
          simpa [latest, Change.attribute?] using found
        rw [← concerns]
        rfl
      | remove name => simp [latest, Change.attribute?] at found
  · rintro ⟨rfl, latest⟩
    rw [told, latest]
    rfl

theorem has_after_empty_iff :
    ((∅ : Registry).after cs).has n ↔ ∃ t, last? n cs = some (.register n t) := by
  rw [has_eq, Option.isSome_iff_exists]
  constructor
  · rintro ⟨a, found⟩
    exact ⟨a.valueType, (get?_after_empty_eq_some_iff.1 found).2⟩
  · rintro ⟨t, latest⟩
    exact ⟨⟨n, t⟩, get?_after_empty_eq_some_iff.2 ⟨rfl, latest⟩⟩

/-! ## Other names -/

/-- The name looks the same in both registries, however it is asked for. -/
structure AgreeOn (n : String) (r r' : Registry) : Prop where
  found : r.get? n = r'.get? n
  has : r.has n = r'.has n
  listed : n ∈ r.names ↔ n ∈ r'.names
  resolved : ∀ c, r.resolve n c = r'.resolve n c
  extracted : (r.extract n).1 = (r'.extract n).1

/-- Whatever is asked about a name is answered from the attribute that is found under it. -/
theorem AgreeOn.of_get? (h : r.get? n = r'.get? n) : AgreeOn n r r' where
  found := h
  has := by rw [has_eq, has_eq, h]
  listed := by rw [mem_names, mem_names, has_eq, has_eq, h]
  resolved c := by simp only [resolve, h]
  extracted := by rw [extract_eq, extract_eq, h]

theorem AgreeOn.after (h : AgreeOn n r r') (cs : List Change) :
    AgreeOn n (r.after cs) (r'.after cs) :=
  .of_get? (by rw [get?_after, get?_after, h.found])

theorem agreeOn_remove {m : String} (h : m ≠ n) (r : Registry) : AgreeOn m (r.remove n) r :=
  .of_get? (by rw [get?_remove, if_neg h.symm])

end

/-- After any changes to an empty registry: every attribute has the name that it is stored
under; an attribute is found under a name just when the last change that concerns the name
registered it with the attribute's type, and the attribute has that name; removing a name gives
back what was found, and no other name ever looks different for it; the names are listed in the
order of their bytes, each once, and are those that the registry has; and a name resolves to
what is found of it, if that has the capability. -/
theorem last_change_wins (cs : List Change) :
    let r := (∅ : Registry).after cs
    (∀ (n : String) (a : Attribute), r.attributes[n]? = some a → a.name = n) ∧
    (∀ n, (∀ a, r.get? n = some a ↔
        a.name = n ∧ last? n cs = some (.register n a.valueType)) ∧
      (r.has n ↔ ∃ t, last? n cs = some (.register n t))) ∧
    (∀ n, (r.extract n).1 = r.get? n ∧
      ∀ m, m ≠ n → ∀ rest, AgreeOn m ((r.extract n).2.after rest) (r.after rest)) ∧
    (r.names.Pairwise (fun a b => Text.bytes a < Text.bytes b) ∧
      (∀ n, n ∈ r.names ↔ r.has n) ∧ r.names.length = r.size) ∧
    ∀ n c a, r.resolve n c = .ok a ↔ r.get? n = some a ∧ a.valueType.supports c := by
  intro r
  refine ⟨named_empty.after cs,
    fun n => ⟨fun a => get?_after_empty_eq_some_iff, has_after_empty_iff⟩,
    fun n => ⟨?_, fun m other rest => ?_⟩,
    ⟨r.names_ascending, fun n => mem_names, r.length_names⟩, fun n c a => resolve_eq_ok_iff⟩
  · rw [extract_eq]
  · rw [extract_eq]
    exact (agreeOn_remove other r).after rest

/-- Names are registered again, removed, and registered after they were removed. -/
theorem last_change_wins_reregistered :
    let cs : List Change := [.register "😀" .bool, .register "z" .integer, .remove "é",
      .register "é" .float, .register "\uffff" .integer, .register "z" .string, .remove "😀",
      .remove "é", .remove "", .register "é" .bool]
    let r := (∅ : Registry).after cs
    r.get? "z" = some ⟨"z", .string⟩ ∧ r.get? "é" = some ⟨"é", .bool⟩ ∧ ¬ r.has "😀" ∧
    (r.extract "z").1 = some ⟨"z", .string⟩ ∧ "é" ≠ "z" ∧
    AgreeOn "é" ((r.extract "z").2.after [.remove "\uffff"]) (r.after [.remove "\uffff"]) ∧
    "\uffff" ∈ r.names ∧ r.resolve "z" .text = .ok ⟨"z", .string⟩ := by
  intro cs r
  obtain ⟨-, found, removal, ⟨-, listed, -⟩, resolves⟩ := last_change_wins cs
  have z : r.get? "z" = some ⟨"z", .string⟩ := ((found "z").1 _).2 ⟨rfl, by decide⟩
  have é : r.get? "é" = some ⟨"é", .bool⟩ := ((found "é").1 _).2 ⟨rfl, by decide⟩
  have gone : ¬ r.has "😀" := by
    rw [(found "😀").2]
    rintro ⟨t, latest⟩
    -- It was registered, but the last change that concerns it is its removal.
    have removed : last? "😀" cs = some (.remove "😀") := by decide
    rw [removed] at latest
    cases latest
  have other : "é" ≠ "z" := by decide
  exact ⟨z, é, gone, (removal "z").1.trans z, other, (removal "z").2 _ other _,
    (listed _).2 ((found _).2.2 ⟨.integer, by decide⟩), (resolves _ _ _).2 ⟨z, by decide⟩⟩

end Registry

end FilterQuery
