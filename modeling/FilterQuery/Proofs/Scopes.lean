import FilterQuery.Translation.Scope

/-!
# What waits in a scope

The operations on scopes are described through what waits in each, as a list. A query may be
registered in any scope whatever; scopes are `Tidy` as long as that is done in opened ones
only, and then a scope that is opened is a new one.
-/
namespace FilterQuery

namespace Scopes

section
variable (s : Scopes) (id : ScopeId)

/-- The queries that wait in a scope, oldest first. -/
def pending : List (Spanned Query) := (s.takeChildren id).1

/-- The scopes after everything in one was taken out. -/
def cleared : Scopes := (s.takeChildren id).2

/-- The identity that the next opened scope gets. -/
def next : ScopeId := s.openScope.1

def opened : Scopes := s.openScope.2

theorem pendingCount_eq_length : s.pendingCount id = (s.pending id).length := by
  unfold pendingCount pending takeChildren
  cases s.children[id]? <;> rfl

@[simp] theorem pending_opened : s.opened.pending id = s.pending id := rfl

variable {id}

theorem pending_of_not_mem (h : id ∉ s.children) : s.pending id = [] := by
  simp [pending, takeChildren, h]

variable (id) (id' : ScopeId)

theorem pending_register (q : Spanned Query) :
    (s.register id q).pending id' =
      if id' = id then s.pending id' ++ [q] else s.pending id' := by
  simp only [pending, takeChildren, register, Std.ExtTreeMap.getElem?_alter,
    Std.compare_eq_iff_eq]
  by_cases h : id = id'
  · subst h
    simp
  · simp [h, Ne.symm h]

theorem pending_cleared :
    (s.cleared id).pending id' = if id' = id then [] else s.pending id' := by
  simp only [pending, cleared, takeChildren, Std.ExtTreeMap.getElem?_erase,
    Std.compare_eq_iff_eq]
  by_cases h : id = id'
  · simp [h]
  · simp [h, Ne.symm h]

/-- What was registered in a scope goes when the scope is cleared. -/
theorem cleared_register (q : Spanned Query) :
    (s.register id q).cleared id = s.cleared id := by
  refine Scopes.ext rfl (Std.ExtTreeMap.ext_getElem? fun id' => ?_)
  simp only [cleared, takeChildren, register, Std.ExtTreeMap.getElem?_erase,
    Std.ExtTreeMap.getElem?_alter]
  split <;> rfl

@[simp] theorem lastOpened_opened : s.opened.lastOpened = s.lastOpened + 1 := rfl

@[simp] theorem lastOpened_register (q : Spanned Query) :
    (s.register id q).lastOpened = s.lastOpened := rfl

@[simp] theorem lastOpened_cleared : (s.cleared id).lastOpened = s.lastOpened := rfl

end

/-! ## Opened scopes -/

/-- The scope has been opened, or is the root. -/
def IsOpen (s : Scopes) (id : ScopeId) : Prop := id.index ≤ s.lastOpened

instance (s : Scopes) (id : ScopeId) : Decidable (s.IsOpen id) :=
  inferInstanceAs (Decidable (_ ≤ _))

/-- Nothing was registered in a scope that has not been opened. -/
def Tidy (s : Scopes) : Prop := ∀ id ∈ s.children, s.IsOpen id

/-- The scope is there to be filled, and the next ones are there to be opened. -/
structure Hosts (s : Scopes) (id : ScopeId) : Prop where
  tidy : s.Tidy
  isOpen : s.IsOpen id

section
variable {s : Scopes} {id : ScopeId}

theorem isOpen_root (s : Scopes) : s.IsOpen .root := Nat.zero_le _

theorem isOpen_next : s.opened.IsOpen s.next := Nat.le_refl _

theorem IsOpen.opened (h : s.IsOpen id) : s.opened.IsOpen id := Nat.le_succ_of_le h

theorem IsOpen.ne_next (h : s.IsOpen id) : id ≠ s.next := by
  rintro rfl
  exact Nat.not_succ_le_self _ h

theorem tidy_empty : ({} : Scopes).Tidy := by
  intro id h
  exact absurd h Std.ExtTreeMap.not_mem_empty

theorem Tidy.opened (h : s.Tidy) : s.opened.Tidy := fun id hid => (h id hid).opened

theorem Tidy.register (h : s.Tidy) (hid : s.IsOpen id) (q : Spanned Query) :
    (s.register id q).Tidy := by
  intro id' h'
  simp only [Scopes.register, Std.ExtTreeMap.mem_alter, Std.compare_eq_iff_eq] at h'
  by_cases same : id = id'
  · exact same ▸ hid
  · rw [if_neg same] at h'
    exact h id' h'

theorem Tidy.cleared (h : s.Tidy) (id : ScopeId) : (s.cleared id).Tidy :=
  fun id' h' => h id' (Std.ExtTreeMap.mem_of_mem_erase h')

theorem Tidy.pending_eq_nil (h : s.Tidy) (hid : ¬ s.IsOpen id) : s.pending id = [] :=
  s.pending_of_not_mem fun mem => hid (h id mem)

theorem Tidy.next_not_mem (h : s.Tidy) : s.next ∉ s.children :=
  fun mem => (h s.next mem).ne_next rfl

theorem Tidy.pending_next (h : s.Tidy) : s.pending s.next = [] :=
  s.pending_of_not_mem h.next_not_mem

theorem Tidy.hosts_next (h : s.Tidy) : s.opened.Hosts s.next := ⟨h.opened, isOpen_next⟩

theorem Tidy.hosts_root (h : s.Tidy) : s.Hosts .root := ⟨h, s.isOpen_root⟩

end

/-! ## Scopes that were filled -/

/-- Further queries in one scope, and `k` more scopes with nothing in them. -/
def grown (s : Scopes) (id : ScopeId) (qs : List (Spanned Query)) (k : Nat) : Scopes :=
  { qs.foldl (fun s q => s.register id q) s with lastOpened := s.lastOpened + k }

section
variable (s : Scopes) (id : ScopeId) (qs : List (Spanned Query)) (k : Nat)

@[simp] theorem lastOpened_grown : (s.grown id qs k).lastOpened = s.lastOpened + k := rfl

@[simp] theorem grown_nil : s.grown id [] 0 = s := rfl

theorem register_eq_grown (q : Spanned Query) : s.register id q = s.grown id [q] 0 := rfl

theorem grown_cons (q : Spanned Query) :
    s.grown id (q :: qs) k = (s.register id q).grown id qs k := rfl

theorem children_foldl_register {s s' : Scopes} (h : s.children = s'.children) :
    (qs.foldl (fun s q => s.register id q) s).children =
      (qs.foldl (fun s q => s.register id q) s').children := by
  induction qs generalizing s s' with
  | nil => exact h
  | cons q qs ih => exact ih (by simp [register, h])

theorem grown_grown (qs' : List (Spanned Query)) (k' : Nat) :
    (s.grown id qs k).grown id qs' k' = s.grown id (qs ++ qs') (k + k') := by
  simp only [grown, List.foldl_append, Nat.add_assoc, mk.injEq, true_and]
  exact children_foldl_register id qs' rfl

theorem pending_grown (id' : ScopeId) :
    (s.grown id qs k).pending id' =
      if id' = id then s.pending id' ++ qs else s.pending id' := by
  induction qs generalizing s with
  | nil => simp [pending, takeChildren, grown]
  | cons q qs ih =>
    rw [grown_cons, ih, pending_register]
    split <;> simp

variable {s id}

theorem Tidy.grown (h : s.Tidy) (hid : s.IsOpen id) : (s.grown id qs k).Tidy := by
  induction qs generalizing s with
  | nil => exact fun id' h' => Nat.le_trans (h id' h') (Nat.le_add_right _ _)
  | cons q qs ih => exact ih (h.register hid q) hid

theorem Hosts.grown (h : s.Hosts id) : (s.grown id qs k).Hosts id :=
  ⟨h.tidy.grown qs k h.isOpen, Nat.le_trans h.isOpen (Nat.le_add_right _ _)⟩

theorem IsOpen.grown (h : s.IsOpen id) (id' : ScopeId) : (s.grown id' qs k).IsOpen id :=
  Nat.le_trans h (Nat.le_add_right _ _)

/-- Taking undoes any number of registrations in a scope that had nothing. -/
theorem erase_children_grown (h : id ∉ s.children) :
    (s.grown id qs k).children.erase id = s.children := by
  refine Std.ExtTreeMap.ext_getElem? fun id' => ?_
  have other : ∀ (s : Scopes), id' ≠ id →
      (s.grown id qs k).children[id']? = s.children[id']? := by
    intro s hne
    induction qs generalizing s with
    | nil => rfl
    | cons q qs ih =>
      rw [grown_cons, ih]
      simp [register, Std.ExtTreeMap.getElem?_alter, Ne.symm hne]
  by_cases same : id' = id
  · subst same
    simp [h]
  · simp [Std.ExtTreeMap.getElem?_erase, Ne.symm same, other s same]

/-- A scope that is opened, filled and reduced leaves nothing behind but its number. -/
theorem register_cleared_grown_opened (h : s.Tidy) (id : ScopeId) (q : Spanned Query) :
    ((s.opened.grown s.next qs k).cleared s.next).register id q = s.grown id [q] (k + 1) := by
  have emptied : ((s.opened.grown s.next qs k).cleared s.next).children = s.children :=
    erase_children_grown qs k (s := s.opened) h.next_not_mem
  refine Scopes.ext ?_ ?_
  · simp only [lastOpened_register, lastOpened_cleared, lastOpened_grown, lastOpened_opened]
    omega
  · change Std.ExtTreeMap.alter _ id _ = Std.ExtTreeMap.alter s.children id _
    rw [emptied]

end

end Scopes

end FilterQuery
