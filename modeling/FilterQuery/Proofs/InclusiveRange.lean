import FilterQuery.Proofs.Acceptance

/-!
# Ranges with both ends included

A range whose flags include both of its ends is the range without flags. The two are read in
different steps, and still make one query of the same tokens, or fail at the same place for
the same reason. The construct is named only where the node is malformed, so the failures
read the same everywhere else.
-/
namespace FilterQuery

/-- The diagnostics differ in the message at most, and only where a node is malformed. -/
structure Diagnostic.Renamed (d d' : Diagnostic) : Prop where
  rest : d' = { d with message := d'.message }
  message : d.kind ≠ .malformedNode → d'.message = d.message

/-- Both give the same result, or both fail, with diagnostics that differ at most in how they
name a malformed node. -/
inductive Coincide {α : Type} : Except Diagnostic α → Except Diagnostic α → Prop
  | ok (a : α) : Coincide (.ok a) (.ok a)
  | error {d d' : Diagnostic} (renamed : d.Renamed d') : Coincide (.error d) (.error d')

section
variable {α β : Type}

theorem Coincide.refl (x : Except Diagnostic α) : Coincide x x := by
  cases x with
  | ok a => exact .ok a
  | error d => exact .error ⟨rfl, fun _ => rfl⟩

/-- A failure that is not for a malformed node is the same on both sides. -/
theorem Coincide.error_eq {d : Diagnostic} {y : Except Diagnostic α} (h : Coincide (.error d) y)
    (hk : d.kind ≠ .malformedNode) : y = .error d := by
  cases h with
  | error renamed => rw [renamed.rest, renamed.message hk]

theorem Coincide.bind {x y : Except Diagnostic α} {f g : α → Except Diagnostic β}
    (hx : Coincide x y) (hf : ∀ a, Coincide (f a) (g a)) : Coincide (x >>= f) (y >>= g) := by
  cases hx with
  | ok a => exact hf a
  | error renamed => exact .error renamed

end

theorem ok_bind {ε α β : Type} (a : α) (f : α → Except ε β) : Except.ok a >>= f = f a := rfl

namespace Leaf

/-- The range over two values with both ends included, whatever the flags. -/
def inclusive : Builder := fun s n => do
  let a ← theAttribute s n .ordered
  let (rawLower, rawUpper) ← twoValues s n
  let lower ← s.convert a rawLower n.span
  let upper ← s.convert a rawUpper n.span
  return .between a ⟨lower, true⟩ ⟨upper, true⟩

section
variable {s : Setting} {n n' : Node}

theorem between_eq_inclusive (h : n.flags = []) : between s n = inclusive s n := by
  have passed : noFlags s n = .ok () := noFlags_eq_ok.2 h
  simp only [between, inclusive, passed, ok_bind]

theorem betweenVerbose_eq_inclusive {f g : Token} (h : n.flags = [f, g])
    (hf : Flags s f true) (hg : Flags s g true) : betweenVerbose s n = inclusive s n := by
  have both : twoFlags s n = .ok (f, g) := twoTokens_eq_ok.2 h
  have lowerIn : flag s n f = .ok true := flag_eq_ok.2 hf
  have upperIn : flag s n g = .ok true := flag_eq_ok.2 hg
  simp only [betweenVerbose, inclusive, both, lowerIn, upperIn, ok_bind]

/-! ### One node under two names -/

theorem fail_coincides {α : Type} {f f' : Failure} (hs : n'.span = n.span)
    (malformed : f.kind = .malformedNode) (kind : f'.kind = f.kind) (help : f'.help = f.help)
    (cause : f'.cause = f.cause) :
    Coincide (s.fail (α := α) f n.span []) (s.fail f' n'.span []) :=
  .error ⟨by simp [Failure.report, hs, kind, help, cause], fun h => absurd malformed h⟩

theorem missing_coincides {α : Type} (hs : n'.span = n.span) (what : String) :
    Coincide (missing (α := α) s n what) (missing s n' what) :=
  fail_coincides hs rfl rfl rfl rfl

theorem theAttribute_coincides (ha : n'.attributeName = n.attributeName) (hs : n'.span = n.span)
    (c : Capability) : Coincide (theAttribute s n c) (theAttribute s n' c) := by
  unfold theAttribute
  rw [ha, hs]
  cases n.attributeName with
  | none => exact missing_coincides hs "an attribute name"
  | some t => exact .refl _

theorem twoTokens_coincides (hs : n'.span = n.span) (what : String) (ts : List Token) :
    Coincide (twoTokens s n what ts) (twoTokens s n' what ts) := by
  unfold twoTokens
  split
  · exact .refl _
  · exact fail_coincides hs rfl rfl rfl rfl

theorem inclusive_coincides (ha : n'.attributeName = n.attributeName)
    (hv : n'.values = n.values) (hs : n'.span = n.span) :
    Coincide (inclusive s n) (inclusive s n') := by
  unfold inclusive twoValues
  rw [hv, hs]
  refine (theAttribute_coincides ha hs .ordered).bind fun a => ?_
  exact (twoTokens_coincides hs "value" n.values).bind fun _ => .refl _

/-- A range without flags and the range over the same tokens whose two flags are true come to
the same query, or fail with the same kind at the same place, and with the same message too
unless the node is malformed. -/
theorem between_coincides (s : Setting) (n : Node) {f g : Token} (hf : Flags s f true)
    (hg : Flags s g true) :
    Coincide (between s { n with kind := .between, flags := [] })
      (betweenVerbose s { n with kind := .betweenVerbose, flags := [f, g] }) := by
  rw [between_eq_inclusive rfl, betweenVerbose_eq_inclusive rfl hf hg]
  exact inclusive_coincides rfl rfl rfl

end

/-- Every name is an attribute that holds an integer. -/
def numbers : Setting where
  resolver name _ := .ok ⟨name, .integer⟩
  converter := Literal.convert
  compiles _ := true
  objectType := ⟨"person"⟩

/-- A range whose upper end is no integer. -/
def adults : Node where
  kind := .between
  attributeName := some ⟨"age", {}⟩
  values := [⟨"18", ⟨13, 15⟩⟩, ⟨"adult", ⟨17, 22⟩⟩]

/-- The end is blamed with and without flags. -/
theorem between_coincides_adults :
    Flags numbers ⟨"'True'", {}⟩ true ∧
      ∃ d, between numbers adults = .error d ∧ d.span = some ⟨17, 22⟩ ∧
        betweenVerbose numbers
          { adults with
            kind := .betweenVerbose
            flags := [⟨"'True'", {}⟩, ⟨"'True'", {}⟩] } = .error d := by
  have flag : Flags numbers ⟨"'True'", {}⟩ true := rfl
  exact ⟨flag, _, rfl, rfl, (between_coincides numbers adults flag flag).error_eq (by decide)⟩

end Leaf

end FilterQuery
