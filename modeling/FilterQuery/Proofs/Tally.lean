import FilterQuery.Proofs.Journal

/-!
# The counters of a run

Whatever a translation is asked to do, it never converts more than it encountered, its
counters never fall back, and a node that was counted in vain is never made up for: from
then on every node that should make a query fails. Nodes that contain what they may not,
and ordering clauses, do not touch the counters.
-/
namespace FilterQuery

namespace Coverage

/-- The encounters that no conversion answers. -/
def missing (c : Coverage) : Int := c.encountered - c.converted

/-- Neither counter has fallen back, nor the difference between them. -/
structure Grows (c c' : Coverage) : Prop where
  encountered : c.encountered ≤ c'.encountered
  converted : c.converted ≤ c'.converted
  missing : c.missing ≤ c'.missing

theorem Grows.refl (c : Coverage) : c.Grows c := ⟨Nat.le_refl _, Nat.le_refl _, Int.le_refl _⟩

theorem Grows.trans {c c' c'' : Coverage} (h : c.Grows c') (h' : c'.Grows c'') : c.Grows c'' :=
  ⟨Nat.le_trans h.encountered h'.encountered, Nat.le_trans h.converted h'.converted,
    Int.le_trans h.missing h'.missing⟩

theorem Grows.counted {c c' : Coverage} (h : c.Grows c') (hc : c.converted ≤ c.encountered) :
    c'.converted ≤ c'.encountered := by
  have missing := h.missing
  unfold Coverage.missing at missing
  omega

theorem grows_of_le {c c' : Coverage} {e k : Nat} (he : c'.encountered = c.encountered + e)
    (hk : c'.converted = c.converted + k) (h : k ≤ e) : c.Grows c' := by
  refine ⟨by omega, by omega, ?_⟩
  unfold missing
  omega

theorem isComplete_eq_false {c : Coverage} (h : 0 < c.missing) : c.isComplete = false := by
  unfold missing at h
  simp only [isComplete, decide_eq_false_iff_not]
  omega

end Coverage

/-! ## A conversion that is checked -/

namespace Progress

/-- The event of leaving a node, by any way of registering and counting its query. -/
def exitNodeBy (convert : ScopeId → Spanned Query → Event Unit) (s : Setting) (hs : Handlers)
    (exit : NodeExit) : Event Unit := do
  expect (exit.node.rejectNested s)
  if exit.node.kind.makesQuery then
    modify encounter
    match hs.get? exit.node.kind with
    | none => pure ()
    | some h =>
      let made ← modifyGet (apply s exit h)
      let q ← expect made
      convert exit.scope ⟨q, exit.node.span⟩
    checkCoverage s exit.node
  else collect s exit.node.span exit.node.orderTerms

theorem exitNode_eq (s : Setting) (hs : Handlers) :
    exitNode s hs = exitNodeBy (fun scope q => modify fun p => p.convert scope q) s hs := rfl

/-- Converts only if more was encountered than converted so far, and raises an alarm
otherwise. -/
def convertChecked (alarm : Diagnostic) (scope : ScopeId) (q : Spanned Query) : Event Unit :=
  fun p =>
    if p.coverage.converted < p.coverage.encountered then .ok () (p.convert scope q)
    else .error alarm p

end Progress

/-- The steps of a translation that checks every conversion. -/
def Driver.checked (alarm : Diagnostic) (s : Setting) (hs : Handlers) : Driver Event where
  rejectNested n := Progress.expect (n.rejectNested s)
  openScope := Progress.openScope
  exitNode := Progress.exitNodeBy (Progress.convertChecked alarm) s hs

/-- A call of a session whose translation takes its steps from a driver. -/
def Session.driven (D : Driver Event) (σ : Session) (c : Call) : Session :=
  match D.call c σ.progress with
  | .ok () p => { σ with progress := p }
  | .error d p => ⟨p, σ.failures ++ [d]⟩

/-- Two ways to go on after an event need only agree on what the event can lead to. -/
theorem Event.bind_congr {α β : Type} {x : Event α} {f g : α → Event β} {p : Progress}
    (h : ∀ a p', x p = .ok a p' → f a p' = g a p') : (x >>= f) p = (x >>= g) p := by
  cases hx : x p with
  | ok a p' => rw [bind_of_ok hx, bind_of_ok hx, h a p' hx]
  | error d p' => rw [bind_of_error hx, bind_of_error hx]

namespace Progress

variable {s : Setting} {hs : Handlers} {x : NodeExit} {p : Progress}

theorem eq_of_expect {α : Type} {e : Except Diagnostic α} {a : α} {p' : Progress}
    (h : expect e p = .ok a p') : p = p' := by
  unfold expect at h
  cases e <;> cases h
  rfl

theorem convertChecked_of_lt (alarm : Diagnostic) (scope : ScopeId) (q : Spanned Query)
    (h : p.coverage.converted < p.coverage.encountered) :
    convertChecked alarm scope q p = .ok () (p.convert scope q) := if_pos h

/-- The encounter comes first, so the check always passes. -/
theorem exitNodeBy_checked (alarm : Diagnostic) (hp : p.Counted) :
    exitNodeBy (convertChecked alarm) s hs x p = exitNode s hs x p := by
  rw [exitNode_eq]
  unfold exitNodeBy
  refine Event.bind_congr fun _ p₁ plain => ?_
  obtain rfl := eq_of_expect plain
  split
  case isFalse => rfl
  case isTrue =>
    refine Event.bind_congr fun _ p₂ counted => ?_
    cases counted
    cases hs.get? x.node.kind with
    | none => rfl
    | some h =>
      refine Event.bind_congr fun made p₃ ran => ?_
      have counters : p₃.coverage = p.encounter.coverage := by
        rw [Event.modifyGet_eq, apply_eq] at ran
        cases ran
        exact coverage_drained ..
      refine Event.bind_congr fun q p₄ ok => ?_
      have below : p₄.coverage.converted < p₄.coverage.encountered := by
        rw [← eq_of_expect ok, counters]
        exact Nat.lt_succ_of_le hp
      exact Event.bind_of_ok (convertChecked_of_lt alarm x.scope _ below)

end Progress

/-! ## What an exit does to the counters -/

namespace Leaving

section
variable (s : Setting) (hs : Handlers) (l : Leaving)

/-- The node may contain what is in it and is one that makes a query, so that it is counted. -/
def IsCounted : Prop := l.exit.node.rejectNested s = .ok () ∧ l.exit.node.kind.makesQuery

/-- The kind of the node has a handler, which makes a query of the node. -/
def IsMade : Prop :=
  ∃ h q, hs.get? l.exit.node.kind = some h ∧
    h.make s l.exit.node (l.before.scopes.pending l.exit.id) = .ok q

/-- The exit fails although its node was counted. -/
def Lapses : Prop := l.IsCounted s ∧ l.Fails s hs

/-- The counters around an exit. -/
inductive Counts : Prop
  | spared (uncounted : ¬ l.IsCounted s) (why : l.exit.node.kind.makesQuery → l.Fails s hs)
      (same : (l.after s hs).coverage = l.before.coverage)
  | converted (succeeds : ¬ l.Fails s hs) (complete : l.before.coverage.missing = 0)
      (counted : l.IsCounted s) (made : l.IsMade s hs)
      (both : (l.after s hs).coverage =
        ⟨l.before.coverage.encountered + 1, l.before.coverage.converted + 1⟩)
  /-- The query was made, but an earlier one had not been. -/
  | uncovered (fails : l.Fails s hs) (incomplete : 0 < l.before.coverage.missing)
      (counted : l.IsCounted s) (made : l.IsMade s hs)
      (both : (l.after s hs).coverage =
        ⟨l.before.coverage.encountered + 1, l.before.coverage.converted + 1⟩)
  | lost (fails : l.Fails s hs) (counted : l.IsCounted s) (unmade : ¬ l.IsMade s hs)
      (one : (l.after s hs).coverage =
        ⟨l.before.coverage.encountered + 1, l.before.coverage.converted⟩)

end

variable {s : Setting} {hs : Handlers} {l : Leaving}

theorem counts_of_counted (hl : l.before.Counted) : l.Counts s hs := by
  have ends := Progress.exitNode_exits s hs l.exit hl
  have outcome : l.outcome s hs = Progress.exitNode s hs l.exit l.before := rfl
  have after : l.after s hs = Event.stateOf (Progress.exitNode s hs l.exit l.before) := rfl
  have makesQuery (h : l.exit.node.kind ≠ .orderBy) : l.exit.node.kind.makesQuery :=
    bne_iff_ne.2 h
  generalize Progress.exitNode s hs l.exit l.before = result at ends outcome after
  cases ends with
  | nested refused =>
    refine .spared ?_ (fun _ => ⟨_, _, outcome⟩) (by rw [after, Event.stateOf_error])
    rintro ⟨plain, -⟩
    simp [plain] at refused
  | ordered _ kind | unordered _ kind =>
    have none : ¬ l.exit.node.kind.makesQuery := by simp [NodeKind.makesQuery, kind]
    exact .spared (fun h => none h.2) (fun h => absurd h none)
      (by simp only [after, Event.stateOf_ok, Event.stateOf_error, Progress.coverage_ordered])
  | unhandled plain kind handler =>
    refine .lost ⟨_, _, outcome⟩ ⟨plain, makesQuery kind⟩ ?_ (by rw [after]; rfl)
    rintro ⟨h, q, some, -⟩
    simp [handler] at some
  | refused plain kind handler made =>
    refine .lost ⟨_, _, outcome⟩ ⟨plain, makesQuery kind⟩ ?_
      (by rw [after, Event.stateOf_error, Progress.coverage_drained]; rfl)
    rintro ⟨h, q, some, ok⟩
    cases handler.symm.trans some
    simp [made] at ok
  | converted plain kind handler made complete =>
    refine .converted ?_ ?_ ⟨plain, makesQuery kind⟩ ⟨_, _, handler, made⟩ ?_
    · rintro ⟨d, p, fails⟩
      rw [fails] at outcome
      cases outcome
    · unfold Coverage.missing
      omega
    · rw [after]
      simp [Progress.convert, Progress.encounter]
  | uncovered plain kind handler made incomplete state =>
    refine .uncovered ⟨_, _, outcome⟩ ?_ ⟨plain, makesQuery kind⟩ ⟨_, _, handler, made⟩ ?_
    · exact Int.sub_pos_of_lt (Int.ofNat_lt.2 incomplete)
    · rw [after, state]
      simp [Progress.convert, Progress.encounter]

theorem Counts.grows (h : l.Counts s hs) : l.before.coverage.Grows (l.after s hs).coverage := by
  cases h with
  | spared _ _ same =>
    rw [same]
    exact .refl _
  | converted _ _ _ _ both | uncovered _ _ _ _ both =>
    rw [both]
    exact Coverage.grows_of_le rfl rfl (Nat.le_refl 1)
  | lost _ _ _ one =>
    rw [one]
    exact Coverage.grows_of_le (k := 0) rfl rfl (Nat.zero_le 1)

theorem Counts.encountered_eq (h : l.Counts s hs) (counted : l.IsCounted s) :
    (l.after s hs).coverage.encountered = l.before.coverage.encountered + 1 := by
  cases h with
  | spared uncounted => exact absurd counted uncounted
  | converted _ _ _ _ both | uncovered _ _ _ _ both => rw [both]
  | lost _ _ _ one => rw [one]

theorem Counts.coverage_eq (h : l.Counts s hs) (uncounted : ¬ l.IsCounted s) :
    (l.after s hs).coverage = l.before.coverage := by
  cases h with
  | spared _ _ same => exact same
  | converted _ _ counted | uncovered _ _ counted | lost _ counted =>
    exact absurd counted uncounted

theorem Counts.lapses_of_not_isMade (h : l.Counts s hs) (counted : l.IsCounted s)
    (unmade : ¬ l.IsMade s hs) : l.Lapses s hs := by
  cases h with
  | spared uncounted => exact absurd counted uncounted
  | converted _ _ _ made | uncovered _ _ _ made => exact absurd made unmade
  | lost fails => exact ⟨counted, fails⟩

theorem Counts.missing_of_lapses (h : l.Counts s hs) (hl : l.before.Counted)
    (lapses : l.Lapses s hs) : 0 < (l.after s hs).coverage.missing := by
  obtain ⟨counted, fails⟩ := lapses
  unfold Progress.Counted at hl
  unfold Coverage.missing
  cases h with
  | spared uncounted => exact absurd counted uncounted
  | converted succeeds => exact absurd fails succeeds
  | uncovered _ incomplete _ _ both =>
    unfold Coverage.missing at incomplete
    simp only [both]
    omega
  | lost _ _ _ one =>
    simp only [one]
    omega

/-- Once an encounter is unanswered, no node makes a query any more without a failure. -/
theorem Counts.fails_of_missing (h : l.Counts s hs) (missing : 0 < l.before.coverage.missing)
    (hk : l.exit.node.kind.makesQuery) : l.Fails s hs := by
  cases h with
  | spared _ why => exact why hk
  | converted _ complete => omega
  | uncovered fails | lost fails => exact fails

end Leaving

/-! ## Along a run -/

namespace Journal

variable {s : Setting} {hs : Handlers}

/-- What holds of a journal whose translation began with the given counters. -/
structure Sound (s : Setting) (hs : Handlers) (start : Coverage) (j : Journal) : Prop where
  counted : j.progress.Counted
  grown : start.Grows j.progress.coverage
  found : ∀ l ∈ j.leavings, l.before.Counted
  order : j.leavings.Pairwise fun l l' => (l.after s hs).coverage.Grows l'.before.coverage
  since : ∀ l ∈ j.leavings, (l.after s hs).coverage.Grows j.progress.coverage

variable {start : Coverage} {j : Journal}

theorem Sound.left (h : j.Sound s hs start) (x : NodeExit) :
    (j.left s hs x).Sound s hs start := by
  have counts : Leaving.Counts s hs ⟨x, j.progress⟩ := Leaving.counts_of_counted h.counted
  have grows := counts.grows
  refine ⟨grows.counted h.counted, h.grown.trans grows, ?_, ?_, ?_⟩
  · intro l hl
    rcases List.mem_append.1 hl with hl | hl
    · exact h.found l hl
    · obtain rfl := List.mem_singleton.1 hl
      exact h.counted
  · refine List.pairwise_append.2 ⟨h.order, List.pairwise_singleton .., fun l hl l' hl' => ?_⟩
    obtain rfl := List.mem_singleton.1 hl'
    exact h.since l hl
  · intro l hl
    rcases List.mem_append.1 hl with hl | hl
    · exact (h.since l hl).trans grows
    · obtain rfl := List.mem_singleton.1 hl
      exact .refl _

/-- Opening a scope leaves the counters as they are. -/
theorem preserved_sound (start : Coverage) : Preserved s hs (Sound s hs start) where
  opened h := ⟨h.counted, h.grown, h.found, h.order, h.since⟩
  left x h := h.left x

theorem notes_run (s : Setting) (hs : Handlers) (calls : List Call) :
    Notes (Sound s hs {}) (run s hs calls) (Session.run s hs calls).progress :=
  (preserved_sound {}).run ⟨Nat.le_refl 0, .refl _, by simp, .nil, by simp⟩ calls

/-- Later calls only let the counters grow. -/
theorem grows_of_prefix {earlier calls : List Call} (h : earlier <+: calls) :
    (Session.run s hs earlier).progress.coverage.Grows
      (Session.run s hs calls).progress.coverage := by
  obtain ⟨later, rfl⟩ := h
  obtain ⟨same, sound⟩ := notes_run s hs earlier
  have begun : Notes (Sound s hs (Session.run s hs earlier).progress.coverage)
      (run s hs earlier) (Session.run s hs earlier).progress :=
    ⟨same, { sound with grown := by rw [same]; exact .refl _ }⟩
  obtain ⟨same', sound'⟩ := (preserved_sound _).foldl begun later
  have grown := sound'.grown
  rw [same'] at grown
  simp only [Session.run, List.foldl_append] at grown ⊢
  exact grown

end Journal

/-- A translation that checks every conversion takes the same steps as one that does not. -/
theorem Driver.refines_checked (alarm : Diagnostic) (s : Setting) (hs : Handlers) :
    Refines (fun p q : Progress => p = q ∧ q.Counted) (.checked alarm s hs) (.plain s hs) where
  rejectNested n := by
    rintro p _ ⟨rfl, counted⟩
    change Agrees _ (Progress.expect (n.rejectNested s) p) (Progress.expect (n.rejectNested s) p)
    cases n.rejectNested s with
    | ok u => exact .ok u ⟨rfl, counted⟩
    | error d => exact .error d ⟨rfl, counted⟩
  openScope := by
    rintro p _ ⟨rfl, counted⟩
    exact .ok p.scopes.next ⟨rfl, counted⟩
  exitNode x := by
    rintro p _ ⟨rfl, counted⟩
    have counts : Leaving.Counts s hs ⟨x, p⟩ := Leaving.counts_of_counted counted
    have kept := counts.grows.counted counted
    unfold Leaving.after Leaving.outcome at kept
    change Agrees _ (Progress.exitNodeBy (Progress.convertChecked alarm) s hs x p)
      (Progress.exitNode s hs x p)
    rw [Progress.exitNodeBy_checked alarm counted]
    generalize Progress.exitNode s hs x p = result at kept ⊢
    cases result with
    | ok u p' => exact .ok u ⟨rfl, kept⟩
    | error d p' => exact .error d ⟨rfl, kept⟩

theorem Session.foldl_driven_checked (alarm : Diagnostic) (s : Setting) (hs : Handlers)
    {σ : Session} (hσ : σ.progress.Counted) (calls : List Call) :
    calls.foldl (driven (.checked alarm s hs)) σ = calls.foldl (call s hs) σ := by
  induction calls generalizing σ with
  | nil => rfl
  | cons c calls ih =>
    have agrees := (Driver.refines_checked alarm s hs).call c σ.progress σ.progress ⟨rfl, hσ⟩
    rw [Driver.call_plain] at agrees
    rw [List.foldl_cons, List.foldl_cons]
    unfold driven call at ih ⊢
    generalize (Driver.checked alarm s hs).call c σ.progress = result at agrees ⊢
    generalize c.event s hs σ.progress = result' at agrees ⊢
    cases agrees with
    | ok u related | error d related =>
      obtain ⟨rfl, counted⟩ := related
      exact ih counted

/-! ## Whole runs -/

namespace Journal

/-- The counters around every exit of a run, in order, and those at its end. -/
def history (s : Setting) (hs : Handlers) (j : Journal) : List Coverage :=
  j.leavings.flatMap (fun l => [l.before.coverage, (l.after s hs).coverage]) ++
    [j.progress.coverage]

/-- What holds of the counters of a run around its exits, those of the caller and those of
walks alike. -/
structure Tallied (s : Setting) (hs : Handlers) (j : Journal) : Prop where
  bounded : ∀ c ∈ j.history s hs, c.converted ≤ c.encountered
  grows : (j.history s hs).Pairwise Coverage.Grows
  counted : ∀ l ∈ j.leavings, l.IsCounted s →
    (l.after s hs).coverage.encountered = l.before.coverage.encountered + 1
  uncounted : ∀ l ∈ j.leavings, ¬ l.IsCounted s →
    (l.after s hs).coverage = l.before.coverage
  /-- Without a handler, or when the handler fails, the exit of a counted node fails. -/
  unmade : ∀ l ∈ j.leavings, l.IsCounted s → ¬ l.IsMade s hs → l.Fails s hs
  /-- After the failure of a counted node the counters differ at every later exit, and every
  later exit of a node that makes queries fails. -/
  lapsed : j.leavings.Pairwise fun l l' => l.Lapses s hs →
    l'.before.coverage.isComplete = false ∧ (l'.after s hs).coverage.isComplete = false ∧
      (l'.exit.node.kind.makesQuery → l'.Fails s hs)

variable {s : Setting} {hs : Handlers} {j : Journal} {start : Coverage}

theorem Sound.tallied (h : j.Sound s hs start) : j.Tallied s hs := by
  have counts {l : Leaving} (hl : l ∈ j.leavings) : l.Counts s hs :=
    Leaving.counts_of_counted (h.found l hl)
  refine ⟨?_, ?_, fun l hl => (counts hl).encountered_eq, fun l hl => (counts hl).coverage_eq,
    fun l hl counted unmade => ((counts hl).lapses_of_not_isMade counted unmade).2, ?_⟩
  · intro c hc
    rcases List.mem_append.1 hc with hc | hc
    · obtain ⟨l, hl, hc⟩ := List.mem_flatMap.1 hc
      have found : l.before.coverage.converted ≤ l.before.coverage.encountered := h.found l hl
      simp only [List.mem_cons, List.not_mem_nil, or_false] at hc
      rcases hc with rfl | rfl
      · exact found
      · exact (counts hl).grows.counted found
    · obtain rfl := List.mem_singleton.1 hc
      exact h.counted
  · refine List.pairwise_append.2 ⟨List.pairwise_flatMap.2 ⟨fun l hl => ?_, ?_⟩,
      List.pairwise_singleton .., fun c hc c' hc' => ?_⟩
    · simpa using (counts hl).grows
    · refine h.order.imp_of_mem fun {l l'} hl hl' between c hc c' hc' => ?_
      simp only [List.mem_cons, List.not_mem_nil, or_false] at hc hc'
      have from_c : c.Grows (l.after s hs).coverage := by
        rcases hc with rfl | rfl
        · exact (counts hl).grows
        · exact .refl _
      have to_c' : l'.before.coverage.Grows c' := by
        rcases hc' with rfl | rfl
        · exact .refl _
        · exact (counts hl').grows
      exact (from_c.trans between).trans to_c'
    · obtain rfl := List.mem_singleton.1 hc'
      obtain ⟨l, hl, hc⟩ := List.mem_flatMap.1 hc
      simp only [List.mem_cons, List.not_mem_nil, or_false] at hc
      rcases hc with rfl | rfl
      · exact (counts hl).grows.trans (h.since l hl)
      · exact h.since l hl
  · refine h.order.imp_of_mem fun {l l'} hl hl' between lapses => ?_
    have missing := (counts hl).missing_of_lapses (h.found l hl) lapses
    have before : 0 < l'.before.coverage.missing := Int.lt_of_lt_of_le missing between.missing
    have after := Int.lt_of_lt_of_le before (counts hl').grows.missing
    exact ⟨Coverage.isComplete_eq_false before, Coverage.isComplete_eq_false after,
      (counts hl').fails_of_missing before⟩

/-- However a translation is used and whatever failed before, it never converts more than it
encountered, so a check of that before each conversion changes nothing; its counters and the
difference between them never fall back; and once a counted node has failed, the translation
stays incomplete to the end and every further node that should make a query fails. Nodes
with children that they may not have, and ordering clauses, leave the counters alone. -/
theorem tallied_run (s : Setting) (hs : Handlers) (calls : List Call) (source : Option Source) :
    let j := run s hs calls
    let p := (Session.run s hs calls).progress
    j.progress = p ∧ j.Tallied s hs ∧
      (∀ alarm, calls.foldl (Session.driven (.checked alarm s hs)) {} = Session.run s hs calls) ∧
      (∀ earlier, earlier <+: calls →
        (Session.run s hs earlier).progress.coverage.Grows p.coverage) ∧
      (∀ l ∈ j.leavings, l.Lapses s hs →
        p.coverage.isComplete = false ∧
        (p.finish source).converted < (p.finish source).encountered ∧
        ∀ x : NodeExit, x.node.kind.makesQuery →
          ∃ d p', Progress.exitNode s hs x p = .error d p') ∧
      ∀ n scope d, n.rejectNested s = .error d → Progress.walk s hs n scope p = .error d p := by
  intro j p
  obtain ⟨same, sound⟩ : j.progress = p ∧ j.Sound s hs {} := notes_run s hs calls
  have begun : ({} : Session).progress.Counted := Nat.le_refl 0
  refine ⟨same, sound.tallied, fun alarm => Session.foldl_driven_checked alarm s hs begun calls,
    fun earlier h => grows_of_prefix h, ?_,
    fun n scope d refused => Progress.walk_of_nested refused⟩
  · intro l hl lapses
    have counts : l.Counts s hs := Leaving.counts_of_counted (sound.found l hl)
    have missing : 0 < p.coverage.missing := by
      rw [← same]
      exact Int.lt_of_lt_of_le (counts.missing_of_lapses (sound.found l hl) lapses)
        (sound.since l hl).missing
    refine ⟨Coverage.isComplete_eq_false missing, ?_, fun x hx => ?_⟩
    · unfold Coverage.missing at missing
      simp only [Progress.finish]
      omega
    · have counted : p.Counted := by
        rw [← same]
        exact sound.counted
      exact (Leaving.counts_of_counted (l := ⟨x, p⟩) counted).fails_of_missing missing hx

end Journal

end FilterQuery
