import FilterQuery.Proofs.Session

/-!
# Recorded runs

A walk opens scopes and leaves nodes as a caller could. A `Driver` is what a traversal
asks for these steps, so that one traversal serves a translation, a translation that keeps a
journal of every node it leaves, and any variant of these. Variants that agree step by step
agree on every call.
-/
namespace FilterQuery

/-- What a traversal asks of the translation beneath it. -/
structure Driver (m : Type → Type) where
  rejectNested : Node → m Unit
  openScope : m ScopeId
  exitNode : NodeExit → m Unit

namespace Driver

section
variable {m : Type → Type} [Monad m] (D : Driver m)

/-- The scope that encloses what is in a node. -/
def enter (k : NodeKind) (scope : ScopeId) : m ScopeId :=
  if k.isScope then D.openScope else pure scope

mutual

def walk : Node → ScopeId → m Unit
  | ⟨kind, span, name, values, flags, type, terms, children⟩, scope => do
    let node : Node := ⟨kind, span, name, values, flags, type, terms, children⟩
    D.rejectNested node
    let id ← D.enter kind scope
    walkAll children id
    D.exitNode ⟨node, scope, id⟩

def walkAll : List Node → ScopeId → m Unit
  | [], _ => pure ()
  | n :: ns, scope => do
    walk n scope
    walkAll ns scope

end

def call : Call → m Unit
  | .openScope => do
    let _ ← D.openScope
    return ()
  | .exitNode x => D.exitNode x
  | .walk n scope => D.walk n scope
  | .walkTree tree => D.walkAll tree.nodes .root

end

/-- The steps of a translation. -/
def plain (s : Setting) (hs : Handlers) : Driver Event where
  rejectNested n := Progress.expect (n.rejectNested s)
  openScope := Progress.openScope
  exitNode := Progress.exitNode s hs

section
variable {s : Setting} {hs : Handlers}

mutual

theorem walk_plain (n : Node) (scope : ScopeId) :
    (plain s hs).walk n scope = Progress.walk s hs n scope := by
  match n with
  | ⟨kind, span, name, values, flags, type, terms, children⟩ =>
    have inside (id : ScopeId) := walkAll_plain children id
    rw [walk, Progress.walk]
    simp only [inside]
    by_cases hk : kind.isScope <;> simp only [enter, hk] <;> rfl

theorem walkAll_plain (ns : List Node) (scope : ScopeId) :
    (plain s hs).walkAll ns scope = Progress.walkAll s hs ns scope := by
  match ns with
  | [] => rw [walkAll, Progress.walkAll]
  | n :: ns => rw [walkAll, Progress.walkAll, walk_plain n, walkAll_plain ns]

end

theorem call_plain (c : Call) : (plain s hs).call c = c.event s hs := by
  cases c with
  | openScope | exitNode => rfl
  | walk n scope => exact walk_plain n scope
  | walkTree tree => exact walkAll_plain tree.nodes .root

end

end Driver

/-! ## Simulation -/

/-- A computation that fails keeps its state. -/
abbrev Stateful (σ α : Type) := EStateM Diagnostic σ α

/-- Two results with the same answer or the same failure, in related states. -/
inductive Agrees {σ τ α : Type} (R : σ → τ → Prop) :
    EStateM.Result Diagnostic σ α → EStateM.Result Diagnostic τ α → Prop
  | ok {s : σ} {t : τ} (a : α) (related : R s t) : Agrees R (.ok a s) (.ok a t)
  | error {s : σ} {t : τ} (d : Diagnostic) (related : R s t) : Agrees R (.error d s) (.error d t)

/-- From related states two computations come to results that agree. -/
def Simulates {σ τ α : Type} (R : σ → τ → Prop) (x : Stateful σ α) (y : Stateful τ α) : Prop :=
  ∀ s t, R s t → Agrees R (x s) (y t)

section
variable {σ τ α β : Type} {R : σ → τ → Prop}

theorem Simulates.pure (a : α) :
    Simulates R (Pure.pure a : Stateful σ α) (Pure.pure a : Stateful τ α) :=
  fun _ _ h => .ok a h

theorem Simulates.bind {x : Stateful σ α} {y : Stateful τ α} {f : α → Stateful σ β}
    {g : α → Stateful τ β} (hx : Simulates R x y) (hf : ∀ a, Simulates R (f a) (g a)) :
    Simulates R (x >>= f) (y >>= g) := by
  intro s t h
  have first := hx s t h
  simp only [Bind.bind, EStateM.bind]
  generalize x s = result at first ⊢
  generalize y t = result' at first ⊢
  cases first with
  | ok a related => exact hf a _ _ related
  | error d related => exact .error d related

namespace Driver

/-- Each step of one driver simulates that of the other. -/
structure Refines (R : σ → τ → Prop) (D : Driver (Stateful σ)) (D' : Driver (Stateful τ)) :
    Prop where
  rejectNested : ∀ n, Simulates R (D.rejectNested n) (D'.rejectNested n)
  openScope : Simulates R D.openScope D'.openScope
  exitNode : ∀ x, Simulates R (D.exitNode x) (D'.exitNode x)

variable {D : Driver (Stateful σ)} {D' : Driver (Stateful τ)}

theorem Refines.enter (h : Refines R D D') (k : NodeKind) (scope : ScopeId) :
    Simulates R (D.enter k scope) (D'.enter k scope) := by
  unfold Driver.enter
  split
  · exact h.openScope
  · exact .pure scope

mutual

theorem Refines.walk (h : Refines R D D') (n : Node) (scope : ScopeId) :
    Simulates R (D.walk n scope) (D'.walk n scope) := by
  match n with
  | ⟨kind, span, name, values, flags, type, terms, children⟩ =>
    rw [Driver.walk, Driver.walk]
    refine (h.rejectNested _).bind fun _ => (h.enter kind scope).bind fun id => ?_
    exact (h.walkAll children id).bind fun _ => h.exitNode _

theorem Refines.walkAll (h : Refines R D D') (ns : List Node) (scope : ScopeId) :
    Simulates R (D.walkAll ns scope) (D'.walkAll ns scope) := by
  match ns with
  | [] =>
    rw [Driver.walkAll, Driver.walkAll]
    exact .pure ()
  | n :: ns =>
    rw [Driver.walkAll, Driver.walkAll]
    exact (h.walk n scope).bind fun _ => h.walkAll ns scope

end

theorem Refines.call (h : Refines R D D') (c : Call) : Simulates R (D.call c) (D'.call c) := by
  cases c with
  | openScope => exact h.openScope.bind fun _ => .pure ()
  | exitNode x => exact h.exitNode x
  | walk n scope => exact h.walk n scope
  | walkTree tree => exact h.walkAll tree.nodes .root

end Driver

end

/-! ## The journal -/

namespace Event

/-- The state that an event ends in, with or without success. -/
def stateOf : EStateM.Result Diagnostic Progress Unit → Progress
  | .ok _ p | .error _ p => p

@[simp] theorem stateOf_ok (u : Unit) (p : Progress) : stateOf (.ok u p) = p := rfl
@[simp] theorem stateOf_error (d : Diagnostic) (p : Progress) : stateOf (.error d p) = p := rfl

end Event

/-- A node that was left, in the state that its exit found. -/
structure Leaving where
  exit : NodeExit
  before : Progress

namespace Leaving

variable (s : Setting) (hs : Handlers) (l : Leaving)

def outcome : EStateM.Result Diagnostic Progress Unit := Progress.exitNode s hs l.exit l.before

/-- The state that the exit left behind. -/
def after : Progress := Event.stateOf (l.outcome s hs)

def Fails : Prop := ∃ d p, l.outcome s hs = .error d p

end Leaving

/-- A translation with all the exits that it has seen, of the caller and of walks alike. -/
structure Journal where
  progress : Progress := {}
  leavings : List Leaving := []

namespace Journal

/-- An event of the translation that the journal takes no note of. -/
def pass {α : Type} (e : Event α) : Stateful Journal α := fun j =>
  match e j.progress with
  | .ok a p => .ok a { j with progress := p }
  | .error d p => .error d { j with progress := p }

def note (x : NodeExit) (j : Journal) : Journal :=
  { j with leavings := j.leavings ++ [⟨x, j.progress⟩] }

/-- The steps of a translation, with a note of every exit before it is made. -/
def driver (s : Setting) (hs : Handlers) : Driver (Stateful Journal) where
  rejectNested n := pass (Progress.expect (n.rejectNested s))
  openScope := pass Progress.openScope
  exitNode x := do
    modify (note x)
    pass (Progress.exitNode s hs x)

variable (s : Setting) (hs : Handlers)

/-- A failed call is noted like any other, and the caller may go on. -/
def call (j : Journal) (c : Call) : Journal :=
  match (driver s hs).call c j with
  | .ok _ j' | .error _ j' => j'

def run (calls : List Call) : Journal := calls.foldl (call s hs) {}

/-! ### Induction on a run -/

/-- The journal after a scope was opened. -/
def opened (j : Journal) : Journal := { j with progress := j.progress.entered }

/-- The journal after a node was left, with or without success. -/
def left (x : NodeExit) (j : Journal) : Journal :=
  ⟨Leaving.after s hs ⟨x, j.progress⟩, j.leavings ++ [⟨x, j.progress⟩]⟩

/-- What the steps of a traversal preserve. -/
structure Preserved (I : Journal → Prop) : Prop where
  opened : ∀ {j}, I j → I j.opened
  left : ∀ {j} x, I j → I (j.left s hs x)

/-- The journal is one of the translation given, and as told. -/
def Notes (I : Journal → Prop) (j : Journal) (p : Progress) : Prop := j.progress = p ∧ I j

variable {s hs} {I : Journal → Prop} {j : Journal}

/-- Forgetting the journal leaves the translation as it is without one. -/
theorem Preserved.refines (h : Preserved s hs I) :
    Driver.Refines (Notes I) (driver s hs) (.plain s hs) where
  rejectNested n := by
    rintro j _ ⟨rfl, holds⟩
    change Agrees _ (pass (Progress.expect (n.rejectNested s)) j)
      (Progress.expect (n.rejectNested s) j.progress)
    unfold pass
    cases n.rejectNested s with
    | ok u => exact .ok u ⟨rfl, holds⟩
    | error d => exact .error d ⟨rfl, holds⟩
  openScope := by
    rintro j _ ⟨rfl, holds⟩
    exact .ok j.progress.scopes.next ⟨rfl, h.opened holds⟩
  exitNode x := by
    rintro j _ ⟨rfl, holds⟩
    have left := h.left x holds
    have noted : (driver s hs).exitNode x j = pass (Progress.exitNode s hs x) (j.note x) := rfl
    rw [noted]
    change Agrees _ _ (Progress.exitNode s hs x j.progress)
    unfold Journal.left Leaving.after Leaving.outcome at left
    simp only [pass, note]
    cases hx : Progress.exitNode s hs x j.progress with
    | ok u p =>
      simp only [hx] at left ⊢
      exact .ok u ⟨rfl, left⟩
    | error d p =>
      simp only [hx] at left ⊢
      exact .error d ⟨rfl, left⟩

theorem Preserved.call (h : Preserved s hs I) {σ : Session} (notes : Notes I j σ.progress)
    (c : Call) : Notes I (j.call s hs c) (σ.call s hs c).progress := by
  have agrees := h.refines.call c j σ.progress notes
  rw [Driver.call_plain] at agrees
  unfold Journal.call Session.call
  generalize (driver s hs).call c j = result at agrees ⊢
  generalize c.event s hs σ.progress = result' at agrees ⊢
  cases agrees with
  | ok u related | error d related => exact related

theorem Preserved.foldl (h : Preserved s hs I) {σ : Session} (notes : Notes I j σ.progress)
    (calls : List Call) :
    Notes I (calls.foldl (Journal.call s hs) j) (calls.foldl (Session.call s hs) σ).progress := by
  induction calls generalizing j σ with
  | nil => exact notes
  | cons c calls ih => exact ih (h.call notes c)

/-- What holds at the start and is preserved holds of the journal of every run, which is a
journal of that run. -/
theorem Preserved.run (h : Preserved s hs I) (start : I {}) (calls : List Call) :
    Notes I (Journal.run s hs calls) (Session.run s hs calls).progress := by
  have begun : Notes I {} ({} : Session).progress := ⟨rfl, start⟩
  exact h.foldl begun calls

end Journal

end FilterQuery
