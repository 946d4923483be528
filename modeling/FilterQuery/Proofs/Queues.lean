import FilterQuery.Proofs.Scopes
import Mathlib.Data.List.DropRight

/-!
# Queues that do not meet

The map of the scopes is so many queues, and a queue is known by what was asked of it: it
holds what was registered in it after it was last emptied. What is asked of other queues makes
no difference, and a queue that is opened is a new one.
-/
namespace FilterQuery

namespace Scopes

/-- What the owner of the queues can ask of them. -/
inductive Request
  | openScope
  | register (scope : ScopeId) (q : Spanned Query)
  | take (scope : ScopeId)
  | count (scope : ScopeId)

/-- What the queues answer. -/
inductive Reply
  | opened (scope : ScopeId)
  | registered
  | taken (qs : List (Spanned Query))
  | counted (n : Nat)

namespace Request

/-- The queue that is spoken of. -/
def scope? : Request → Option ScopeId
  | openScope => none
  | register scope _ | take scope | count scope => some scope

/-- Whether the queue is emptied. -/
def takes (scope : ScopeId) : Request → Bool
  | take scope' => scope' = scope
  | _ => false

/-- What is put into the queue. -/
def put? (scope : ScopeId) : Request → Option (Spanned Query)
  | register scope' q => if scope' = scope then some q else none
  | _ => none

end Request

/-- The new scope, if one was opened. -/
def Reply.scope? : Reply → Option ScopeId
  | opened scope => some scope
  | _ => none

/-- The reply to a request, and the queues after it. -/
def handle (s : Scopes) : Request → Reply × Scopes
  | .openScope =>
    let (scope, s) := s.openScope
    (.opened scope, s)
  | .register scope q => (.registered, s.register scope q)
  | .take scope =>
    let (qs, s) := s.takeChildren scope
    (.taken qs, s)
  | .count scope => (.counted (s.pendingCount scope), s)

/-- The queues after a number of requests. -/
def after (s : Scopes) (rs : List Request) : Scopes := rs.foldl (fun s r => (s.handle r).2) s

/-- The replies to a number of requests. -/
def replies (s : Scopes) : List Request → List Reply
  | [] => []
  | r :: rs => (s.handle r).1 :: (s.handle r).2.replies rs

/-- The replies to those of the requests that speak of the scope. -/
def repliesOn (scope : ScopeId) (s : Scopes) : List Request → List Reply
  | [] => []
  | r :: rs =>
    if r.scope? = some scope then (s.handle r).1 :: repliesOn scope (s.handle r).2 rs
    else repliesOn scope (s.handle r).2 rs

/-! ## What the past tells -/

/-- The scopes that were handed out in the course of the requests. -/
def handedOut (rs : List Request) : List ScopeId :=
  (({} : Scopes).replies rs).filterMap Reply.scope?

/-- The caller knows the scope: it is the root, or was handed out. -/
def Known (rs : List Request) (scope : ScopeId) : Prop := scope = .root ∨ scope ∈ handedOut rs

instance (rs : List Request) (scope : ScopeId) : Decidable (Known rs scope) :=
  inferInstanceAs (Decidable (_ ∨ _))

/-- After the requests `past`, each further one speaks of no scope but a known one. -/
def Admits (past : List Request) : List Request → Prop
  | [] => True
  | r :: rs => (∀ scope ∈ r.scope?, Known past scope) ∧ Admits (past ++ [r]) rs

instance decidableAdmits : (past rs : List Request) → Decidable (Admits past rs)
  | _, [] => inferInstanceAs (Decidable True)
  | past, r :: rs =>
    have : Decidable (Admits (past ++ [r]) rs) := decidableAdmits (past ++ [r]) rs
    inferInstanceAs (Decidable ((∀ scope ∈ r.scope?, Known past scope) ∧ _))

/-- The requests since the queue was last emptied, or all of them. -/
def sinceTaken (scope : ScopeId) (rs : List Request) : List Request :=
  rs.rtakeWhile (!·.takes scope)

/-- What was put into the queue since it was last emptied, in order. -/
def waiting (scope : ScopeId) (rs : List Request) : List (Spanned Query) :=
  (sinceTaken scope rs).filterMap (·.put? scope)

section
variable {s s' : Scopes} {rs rs' : List Request} {r : Request} {scope scope' : ScopeId}

theorem after_concat (s : Scopes) (rs : List Request) (r : Request) :
    s.after (rs ++ [r]) = ((s.after rs).handle r).2 := by simp [after]

theorem replies_concat (s : Scopes) (rs : List Request) (r : Request) :
    s.replies (rs ++ [r]) = s.replies rs ++ [((s.after rs).handle r).1] := by
  induction rs generalizing s with
  | nil => rfl
  | cons r' rs ih => rw [List.cons_append, replies, ih, replies, List.cons_append]; rfl

theorem handedOut_concat (rs : List Request) (r : Request) :
    handedOut (rs ++ [r]) =
      handedOut rs ++ ((({} : Scopes).after rs).handle r).1.scope?.toList := by
  unfold handedOut
  rw [replies_concat, List.filterMap_append]
  cases ((({} : Scopes).after rs).handle r).1 <;> rfl

theorem waiting_concat (scope : ScopeId) (rs : List Request) (r : Request) :
    waiting scope (rs ++ [r]) =
      if r.takes scope then [] else waiting scope rs ++ (r.put? scope).toList := by
  unfold waiting sinceTaken
  rw [List.rtakeWhile_concat]
  cases r.takes scope with
  | true => rfl
  | false => cases put : r.put? scope <;> simp [put]

/-! ## What one request does -/

/-- A scope is open after a request if it was before, or if the reply hands it out. -/
theorem isOpen_handle (s : Scopes) (r : Request) (scope : ScopeId) :
    (s.handle r).2.IsOpen scope ↔ s.IsOpen scope ∨ (s.handle r).1.scope? = some scope := by
  cases r with
  | openScope =>
    obtain ⟨i⟩ := scope
    simp only [handle, openScope, IsOpen, Reply.scope?, Option.some.injEq, ScopeId.mk.injEq]
    omega
  | register scope' q => simp [handle, IsOpen, Reply.scope?]
  | take scope' => simp [handle, takeChildren, IsOpen, Reply.scope?]
  | count scope' => simp [handle, Reply.scope?]

theorem tidy_handle (hs : s.Tidy) (h : ∀ scope' ∈ r.scope?, s.IsOpen scope') :
    (s.handle r).2.Tidy := by
  cases r with
  | openScope => exact hs.opened
  | register scope' q => exact hs.register (h scope' rfl) q
  | take scope' => exact hs.cleared scope'
  | count scope' => exact hs

theorem pending_handle (s : Scopes) (r : Request) (scope : ScopeId) :
    (s.handle r).2.pending scope =
      if r.takes scope then [] else s.pending scope ++ (r.put? scope).toList := by
  cases r with
  | openScope => exact (List.append_nil _).symm
  | register scope' q =>
    rw [handle, pending_register]
    by_cases hs : scope = scope'
    · simp [Request.takes, Request.put?, hs]
    · simp [Request.takes, Request.put?, hs, Ne.symm hs]
  | take scope' =>
    have emptied : (s.handle (.take scope')).2 = s.cleared scope' := rfl
    rw [emptied, pending_cleared]
    simp [Request.takes, Request.put?, eq_comm]
  | count scope' => simp [handle, Request.takes, Request.put?]

/-! ## What the queues hold after a run -/

/-- The requests up to here tell which scopes are open and what waits in each. -/
structure Tracks (rs : List Request) : Prop where
  tidy : (({} : Scopes).after rs).Tidy
  known : ∀ scope, Known rs scope ↔ (({} : Scopes).after rs).IsOpen scope
  pending : ∀ scope, (({} : Scopes).after rs).pending scope = waiting scope rs

theorem Tracks.nil : Tracks [] where
  tidy := tidy_empty
  known scope := by
    obtain ⟨i⟩ := scope
    simp [Known, handedOut, replies, after, IsOpen, ScopeId.root]
  pending scope := rfl

theorem Tracks.concat (t : Tracks rs) (h : ∀ scope ∈ r.scope?, Known rs scope) :
    Tracks (rs ++ [r]) where
  tidy := by
    rw [after_concat]
    exact tidy_handle t.tidy fun scope hs => (t.known scope).1 (h scope hs)
  known scope := by
    rw [after_concat, isOpen_handle, ← t.known scope, Known, Known, handedOut_concat,
      List.mem_append, Option.mem_toList, or_assoc]
  pending scope := by
    rw [after_concat, pending_handle, t.pending scope, waiting_concat]

theorem Tracks.append (t : Tracks rs) (h : Admits rs rs') : Tracks (rs ++ rs') := by
  induction rs' generalizing rs with
  | nil => rwa [List.append_nil]
  | cons r rs' ih =>
    obtain ⟨hr, hrs⟩ := h
    have := ih (t.concat hr) hrs
    rwa [List.append_assoc] at this

theorem Admits.tracks (h : Admits [] rs) : Tracks rs := Tracks.nil.append h

/-! ## Other queues -/

/-- The scope looks the same in both, and the next one to be opened is the same. -/
structure Alike (scope : ScopeId) (s s' : Scopes) : Prop where
  lastOpened : s.lastOpened = s'.lastOpened
  pending : s.pending scope = s'.pending scope

theorem lastOpened_handle (s : Scopes) (r : Request) :
    (s.handle r).2.lastOpened = s.lastOpened + if r.scope? = none then 1 else 0 := by
  cases r <;> rfl

theorem takes_eq_false (h : r.scope? = some scope') (hne : scope' ≠ scope) :
    r.takes scope = false := by
  cases r <;> cases h <;> simp [Request.takes, hne]

theorem put?_eq_none (h : r.scope? = some scope') (hne : scope' ≠ scope) :
    r.put? scope = none := by
  cases r <;> cases h <;> simp [Request.put?, hne]

theorem alike_handle (h : r.scope? = some scope') (hne : scope' ≠ scope) (s : Scopes) :
    Alike scope (s.handle r).2 s where
  lastOpened := by rw [lastOpened_handle, h]; rfl
  pending := by simp [pending_handle, takes_eq_false h hne, put?_eq_none h hne]

theorem Alike.handle (a : Alike scope s s') (r : Request) :
    Alike scope (s.handle r).2 (s'.handle r).2 where
  lastOpened := by rw [lastOpened_handle, lastOpened_handle, a.lastOpened]
  pending := by rw [pending_handle, pending_handle, a.pending]

theorem reply_take (s : Scopes) (scope : ScopeId) :
    (s.handle (.take scope)).1 = .taken (s.pending scope) := rfl

theorem reply_count (s : Scopes) (scope : ScopeId) :
    (s.handle (.count scope)).1 = .counted (s.pending scope).length :=
  congrArg Reply.counted (s.pendingCount_eq_length scope)

theorem Alike.reply (a : Alike scope s s') (h : r.scope? = some scope) :
    (s.handle r).1 = (s'.handle r).1 := by
  cases r with
  | openScope => contradiction
  | register other q => rfl
  | take other =>
    obtain rfl := Option.some.inj h
    rw [reply_take, reply_take, a.pending]
  | count other =>
    obtain rfl := Option.some.inj h
    rw [reply_count, reply_count, a.pending]

theorem Alike.repliesOn (a : Alike scope s s') (rs : List Request) :
    repliesOn scope s rs = repliesOn scope s' rs := by
  induction rs generalizing s s' with
  | nil => rfl
  | cons r rs ih =>
    rw [Scopes.repliesOn, Scopes.repliesOn, ih (a.handle r)]
    split
    · rename_i hr
      rw [a.reply hr]
    · rfl

end

/-- For every sequence of requests that speaks of known scopes only: what is taken from a
queue is what was put into it since it was last emptied, in order, and as many are counted;
a scope that is opened is new and nothing waits in it; and a request that speaks of one
queue leaves all further replies on any other as they would have been. -/
theorem queues_independent (rs : List Request) (admitted : Admits [] rs) :
    let s := ({} : Scopes).after rs
    (∀ scope, (s.handle (.take scope)).1 = .taken (waiting scope rs) ∧
      (s.handle (.count scope)).1 = .counted (waiting scope rs).length) ∧
    (∃ scope, (s.handle .openScope).1 = .opened scope ∧
      scope ≠ .root ∧ scope ∉ handedOut rs ∧
      (s.handle .openScope).2.replies [.count scope, .take scope] = [.counted 0, .taken []]) ∧
    ∀ r scope scope', r.scope? = some scope → scope ≠ scope' → ∀ rest,
      repliesOn scope' (s.handle r).2 rest = repliesOn scope' s rest := by
  intro s
  have t : Tracks rs := admitted.tracks
  refine ⟨fun scope => ⟨?_, ?_⟩, ⟨s.next, rfl, ?_⟩, fun r scope scope' hr hne rest => ?_⟩
  · rw [reply_take, t.pending scope]
  · rw [reply_count, t.pending scope]
  · -- All known scopes are open, and the next one is not yet.
    have hnew : ¬ Known rs s.next := fun h => ((t.known _).1 h).ne_next rfl
    obtain ⟨hroot, hold⟩ := not_or.1 hnew
    have empty : s.opened.pending s.next = [] := t.tidy.pending_next
    have counted := s.opened.reply_count s.next
    have taken := s.opened.reply_take s.next
    rw [empty] at counted taken
    exact ⟨hroot, hold, congrArg₂ (fun r r' => [r, r']) counted taken⟩
  · exact (alike_handle hr hne s).repliesOn rest

/-- A scope is filled again after it was emptied, and others are used in between. -/
theorem queues_independent_refilled :
    let q (n : UInt64) : Spanned Query := ⟨.junction .and [], ⟨n, n⟩⟩
    let rs := [.openScope, .register ⟨1⟩ (q 1), .openScope, .register .root (q 2),
      .register ⟨1⟩ (q 3), .take ⟨1⟩, .register ⟨2⟩ (q 4), .register ⟨1⟩ (q 5),
      .register ⟨1⟩ (q 5), .take ⟨2⟩]
    let s := ({} : Scopes).after rs
    Admits [] rs ∧
    (s.handle (.take ⟨1⟩)).1 = .taken [q 5, q 5] ∧ (s.handle (.count ⟨2⟩)).1 = .counted 0 ∧
    repliesOn .root (s.handle (.take ⟨1⟩)).2 [.take .root] =
      repliesOn .root s [.take .root] := by
  intro q rs s
  have admitted : Admits [] rs := by decide
  obtain ⟨queues, -, others⟩ := queues_independent rs admitted
  exact ⟨admitted, (queues ⟨1⟩).1, (queues ⟨2⟩).2,
    others (.take ⟨1⟩) ⟨1⟩ .root rfl (by decide) [.take .root]⟩

end Scopes

end FilterQuery
