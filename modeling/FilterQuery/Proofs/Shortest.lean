import FilterQuery.Proofs.Rounding
import FilterQuery.Value

/-!
# The shortest decimal reads back

Whatever grid the search stops at, and however the digits are laid out, the decimal that
is shown for a finite number rounds to that number.
-/
namespace FilterQuery.Decimal

open Binary64

variable {tie : Tie} {m : Nat} {q : Int} {n d : Nat} {e : Int} {s : Scaled}

/-- The decimal rounds to the number of that significand and exponent. -/
def Scaled.Reads (s : Scaled) (m : Nat) (q : Int) : Prop :=
  ∃ (negative : Bool) (canonical : Canonical m q), s.toBinary64 = finite negative m q canonical

theorem reads_of_match {c : Nat}
    (h : (match (Scaled.mk c e).toBinary64 with
      | .finite _ m' q' _ => m' == m && q' == q
      | _ => false) = true) : (Scaled.mk c e).Reads m q := by
  unfold Scaled.Reads
  cases hx : (Scaled.mk c e).toBinary64 with
  | nan => simp [hx] at h
  | infinite negative => simp [hx] at h
  | finite negative m' q' canonical =>
    simp only [hx, Bool.and_eq_true, beq_iff_eq] at h
    obtain ⟨rfl, rfl⟩ := h
    exact ⟨negative, canonical, rfl⟩

theorem reads_of_neighbour? (h : neighbour? tie m q n d e = some s) : s.Reads m q := by
  unfold neighbour? at h
  extract_lets grid low rest reads high preferHigh at h
  have reads_imp {c : Nat} (hc : reads c = true) : (Scaled.mk c e).Reads m q := reads_of_match hc
  split at h
  · split at h
    next hl =>
      cases h
      exact reads_imp hl
    next => cases h
  · split at h
    next hl hh =>
      cases h
      cases preferHigh
      · exact reads_imp hl
      · exact reads_imp hh
    next hl _ =>
      cases h
      exact reads_imp hl
    next _ hh =>
      cases h
      exact reads_imp hh
    next => cases h

theorem reads_of_firstNeighbour {lead : Int} {fuel k : Nat}
    (h : firstNeighbour tie m q n d lead fuel k = some s) : s.Reads m q := by
  induction fuel generalizing k with
  | zero => cases h
  | succ fuel ih =>
    rw [firstNeighbour, Option.or_eq_some_iff] at h
    rcases h with h | ⟨-, h⟩
    · exact reads_of_neighbour? h
    · exact ih h

/-- Zeros at the end do not change the number. -/
theorem Scaled.ratio_normalize (s : Scaled) (fuel : Nat) :
    ((s.normalize fuel).digits * 10 ^ (s.normalize fuel).exponent : ℚ) =
      s.digits * 10 ^ s.exponent := by
  induction fuel generalizing s with
  | zero => rfl
  | succ fuel ih =>
    rw [normalize]
    split
    next h =>
      rw [ih]
      have whole : s.digits = s.digits / 10 * 10 := by omega
      conv_rhs => rw [whole]
      rw [Nat.cast_mul, Nat.cast_ofNat, zpow_add₀ (by norm_num), zpow_one]
      ring
    next => rfl

theorem ofDecimal_shortest (tie : Tie) (canonical : Canonical m q) (hm : m ≠ 0)
    (negative : Bool) :
    ofDecimal negative (shortest tie m q).digits (shortest tie m q).exponent =
      finite negative m q canonical := by
  unfold shortest
  dsimp only
  split
  next s found =>
    obtain ⟨_, _, reads⟩ := reads_of_firstNeighbour found
    exact ofDecimal_congr (s.ratio_normalize 18).symm hm reads negative
  next =>
    -- No grid has a neighbour that reads back, and the number is written in full.
    split
    next hq =>
      refine ofDecimal_exact canonical hm ?_ negative
      obtain ⟨j, rfl⟩ := Int.eq_ofNat_of_zero_le hq
      simp
    next hq =>
      refine ofDecimal_exact canonical hm ?_ negative
      obtain ⟨j, hj⟩ := Int.eq_ofNat_of_zero_le (a := -q) (by omega)
      obtain rfl : q = -j := by omega
      have ten : (10 : ℚ) = 2 * 5 := by norm_num
      simp only [neg_neg, Int.toNat_natCast, Nat.pow_eq, Nat.cast_mul, Nat.cast_pow,
        Nat.cast_ofNat, zpow_neg, zpow_natCast, ten, mul_pow]
      field_simp

end FilterQuery.Decimal
