import FilterQuery.Decimal.Binary64
import Mathlib.Algebra.Order.Field.Power
import Mathlib.Data.Int.Log
import Mathlib.Data.Rat.Floor
import Mathlib.Tactic.FieldSimp
import Mathlib.Tactic.Linarith
import Mathlib.Tactic.NormNum
import Mathlib.Tactic.Ring

/-!
# Rounding to a floating point number

Rounding is worked out on a numerator and a denominator, with exponents estimated from
their binary lengths. It depends on their ratio alone, it keeps a number that has the
format already, and what it makes of a decimal does not depend on the way the decimal is
written.
-/
namespace FilterQuery.Binary64

section
variable {n d n' d' : Nat}

theorem scaled_pos (hd : 0 < d) (n : Nat) (k : Int) : 0 < (scaled n d k).2 := by
  unfold scaled
  split
  · exact hd
  · exact Nat.mul_pos hd (Nat.pow_pos Nat.two_pos)

theorem scaled_ratio (n d : Nat) (k : Int) :
    ((scaled n d k).1 / (scaled n d k).2 : ℚ) = n / d * 2 ^ k := by
  unfold scaled
  split
  next hk =>
    obtain ⟨j, rfl⟩ := Int.eq_ofNat_of_zero_le hk
    simp only [Int.toNat_natCast, Nat.pow_eq, Nat.cast_mul, Nat.cast_pow, Nat.cast_ofNat,
      zpow_natCast]
    ring
  next hk =>
    obtain ⟨j, hj⟩ := Int.eq_ofNat_of_zero_le (a := -k) (by omega)
    obtain rfl : k = -j := by omega
    simp only [neg_neg, Int.toNat_natCast, Nat.pow_eq, Nat.cast_mul, Nat.cast_pow,
      Nat.cast_ofNat, zpow_neg, zpow_natCast]
    rw [div_mul_eq_div_div, div_eq_mul_inv _ ((2 : ℚ) ^ j)]

/-- Ratios are equal when their cross products are. -/
theorem cross_of_ratio (hd : 0 < d) (hd' : 0 < d') (h : (n / d : ℚ) = n' / d') :
    n * d' = n' * d := by
  have hd : (d : ℚ) ≠ 0 := by positivity
  have hd' : (d' : ℚ) ≠ 0 := by positivity
  rw [div_eq_div_iff hd hd'] at h
  exact_mod_cast h

theorem roundQuotient_mul {k : Nat} (hk : 0 < k) (n d : Nat) :
    roundQuotient (k * n) (k * d) = roundQuotient n d := by
  unfold roundQuotient
  simp only [Nat.mul_div_mul_left _ _ hk, Nat.mul_mod_mul_left, Nat.mul_left_comm 2 k,
    Nat.mul_lt_mul_left hk]

theorem roundQuotient_congr (hd : 0 < d) (hd' : 0 < d') (h : (n / d : ℚ) = n' / d') :
    roundQuotient n d = roundQuotient n' d' := by
  have cross := cross_of_ratio hd hd' h
  calc roundQuotient n d
      = roundQuotient (d' * n) (d' * d) := (roundQuotient_mul hd' n d).symm
    _ = roundQuotient (d * n') (d * d') := by
        rw [Nat.mul_comm d' n, cross, Nat.mul_comm n' d, Nat.mul_comm d' d]
    _ = roundQuotient n' d' := roundQuotient_mul hd n' d'

theorem roundQuotient_eq_zero (h : 2 * n < d) : roundQuotient n d = 0 := by
  have small : n < d := by omega
  simp [roundQuotient, Nat.div_eq_of_lt small, Nat.mod_eq_of_lt small, h]

theorem roundQuotient_whole (hd : 0 < d) (h : (n / d : ℚ) = n') : roundQuotient n d = n' := by
  have overOne : roundQuotient n d = roundQuotient n' 1 :=
    roundQuotient_congr hd Nat.one_pos (by simpa using h)
  rw [overOne]
  simp [roundQuotient, Nat.mod_one]

/-! ## Exponents -/

theorem log_eq {r : ℚ} {k : Int} (low : 2 ^ k ≤ r) (high : r < 2 ^ (k + 1)) :
    Int.log 2 r = k := by
  have pos : 0 < r := lt_of_lt_of_le (by positivity) low
  have h₁ : k ≤ Int.log 2 r :=
    (Int.zpow_le_iff_le_log Nat.one_lt_two pos).1 (by exact_mod_cast low)
  have h₂ : Int.log 2 r < k + 1 :=
    (Int.lt_zpow_iff_log_lt Nat.one_lt_two pos).1 (by exact_mod_cast high)
  omega

/-- Binary lengths tell a ratio up to a factor of four. -/
theorem ratio_bounds (hn : 0 < n) (hd : 0 < d) :
    (2 : ℚ) ^ ((Nat.log2 n : Int) - Nat.log2 d - 1) ≤ n / d ∧
      (n / d : ℚ) < 2 ^ ((Nat.log2 n : Int) - Nat.log2 d + 1) := by
  have two : (2 : ℚ) ≠ 0 := two_ne_zero
  have nLow : (2 : ℚ) ^ (Nat.log2 n : Int) ≤ n := by
    exact_mod_cast Nat.log2_self_le hn.ne'
  have nHigh : (n : ℚ) < 2 ^ ((Nat.log2 n : Int) + 1) := by
    exact_mod_cast Nat.lt_log2_self
  have dLow : (2 : ℚ) ^ (Nat.log2 d : Int) ≤ d := by
    exact_mod_cast Nat.log2_self_le hd.ne'
  have dHigh : (d : ℚ) < 2 ^ ((Nat.log2 d : Int) + 1) := by
    exact_mod_cast Nat.lt_log2_self
  have dPos : (0 : ℚ) < d := by exact_mod_cast hd
  constructor
  · rw [sub_sub, zpow_sub₀ two]
    exact div_le_div₀ (by positivity) nLow dPos dHigh.le
  · rw [sub_add_eq_add_sub, zpow_sub₀ two]
    exact div_lt_div₀ nHigh dLow (by positivity) (by positivity)

theorem le_scaled_iff (hd : 0 < d) (k : Nat) (q : Int) :
    2 ^ k ≤ (scaled n d (-q)).1 / (scaled n d (-q)).2 ↔ (2 : ℚ) ^ (k + q) ≤ n / d := by
  have pos := scaled_pos hd n (-q)
  have posq : (0 : ℚ) < (scaled n d (-q)).2 := by exact_mod_cast pos
  have step : (2 : ℚ) ^ (k + q) = 2 ^ k / 2 ^ (-q) := by
    rw [zpow_neg, div_inv_eq_mul, zpow_add₀ two_ne_zero, zpow_natCast]
  rw [Nat.le_div_iff_mul_le pos, step, div_le_iff₀ (by positivity), ← scaled_ratio,
    le_div_iff₀ posq]
  exact_mod_cast Iff.rfl

theorem lastExponent_eq (hn : 0 < n) (hd : 0 < d) :
    lastExponent n d = max (Int.log 2 (n / d : ℚ) - 52) (-1074) := by
  obtain ⟨low, high⟩ := ratio_bounds hn hd
  unfold lastExponent
  simp only [Nat.pow_eq, le_scaled_iff hd]
  congr 1
  -- The estimate leaves two candidates for the exponent of the leading bit.
  split
  next h =>
    have exponent : Int.log 2 (n / d : ℚ) = Nat.log2 n - Nat.log2 d := by
      refine log_eq (le_trans (le_of_eq ?_) h) high
      congr 1
      omega
    omega
  next h =>
    have exponent : Int.log 2 (n / d : ℚ) = Nat.log2 n - Nat.log2 d - 1 := by
      refine log_eq low (lt_of_lt_of_le (lt_of_not_ge h) (le_of_eq ?_))
      congr 1
      omega
    omega

/-! ## Rounding a ratio -/

/-- Rounding depends on the ratio alone. -/
theorem ofRatio_congr (hd : 0 < d) (hd' : 0 < d') (h : (n / d : ℚ) = n' / d')
    (negative : Bool) : ofRatio negative n d = ofRatio negative n' d' := by
  have cross := cross_of_ratio hd hd' h
  have zero : n = 0 ↔ n' = 0 := by
    constructor
    · rintro rfl
      simpa [hd.ne'] using cross.symm
    · rintro rfl
      simpa [hd'.ne'] using cross
  unfold ofRatio
  by_cases hn : n = 0
  · rw [if_pos hn, if_pos (zero.1 hn)]
  · have hn' : n' ≠ 0 := fun h => hn (zero.2 h)
    have exponent : lastExponent n d = lastExponent n' d' := by
      rw [lastExponent_eq (Nat.pos_of_ne_zero hn) hd,
        lastExponent_eq (Nat.pos_of_ne_zero hn') hd', h]
    have significand (k : Int) :
        roundQuotient (scaled n d k).1 (scaled n d k).2 =
          roundQuotient (scaled n' d' k).1 (scaled n' d' k).2 := by
      refine roundQuotient_congr (scaled_pos hd _ _) (scaled_pos hd' _ _) ?_
      rw [scaled_ratio, scaled_ratio, h]
    simp only [if_neg hn, if_neg hn', significand, exponent]

theorem ofParts_of_canonical {m : Nat} {q : Int} (h : Canonical m q) (negative : Bool) :
    ofParts negative m q = finite negative m q h := dif_pos h

/-- A number of the format is kept. -/
theorem ofRatio_exact (hd : 0 < d) {m : Nat} {q : Int} (canonical : Canonical m q) (hm : m ≠ 0)
    (h : (n / d : ℚ) = m * 2 ^ q) (negative : Bool) :
    ofRatio negative n d = finite negative m q canonical := by
  obtain ⟨below, least, -, normal⟩ := id canonical
  rw [Nat.pow_eq] at below normal
  have hn : n ≠ 0 := by
    rintro rfl
    have pos : (0 : ℚ) < m * 2 ^ q := by positivity
    simp [← h] at pos
  have log : Int.log 2 (n / d : ℚ) = Nat.log2 m + q := by
    have low : (2 : ℚ) ^ (Nat.log2 m : Int) ≤ m := by exact_mod_cast Nat.log2_self_le hm
    have high : (m : ℚ) < 2 ^ ((Nat.log2 m : Int) + 1) := by exact_mod_cast Nat.lt_log2_self
    refine log_eq ?_ ?_
    · rw [h, zpow_add₀ two_ne_zero]
      gcongr
    · rw [h, add_right_comm, zpow_add₀ two_ne_zero]
      gcongr
  have width : Nat.log2 m < 53 := (Nat.log2_lt hm).2 below
  have exponent : lastExponent n d = q := by
    rw [lastExponent_eq (Nat.pos_of_ne_zero hn) hd, log]
    rcases normal with normal | rfl
    · have full : 52 ≤ Nat.log2 m := (Nat.le_log2 hm).2 normal
      omega
    · omega
  have significand : roundQuotient (scaled n d (-q)).1 (scaled n d (-q)).2 = m := by
    refine roundQuotient_whole (scaled_pos hd _ _) ?_
    rw [scaled_ratio, h, mul_assoc, ← zpow_add₀ two_ne_zero, add_neg_cancel, zpow_zero, mul_one]
  have notFull : m ≠ Nat.pow 2 53 := Nat.ne_of_lt below
  simp only [ofRatio, if_neg hn, exponent, significand, if_neg notFull]
  exact ofParts_of_canonical canonical negative

theorem exponent_le_of_ofParts {negative s : Bool} {m m' : Nat} {q q' : Int}
    {h : Canonical m q} (hp : ofParts negative m' q' = finite s m q h) :
    q' ≤ 971 ∧ m = m' ∧ s = negative ∧ q = q' := by
  unfold ofParts at hp
  split at hp
  next canonical =>
    cases hp
    exact ⟨canonical.2.2.1, rfl, rfl, rfl⟩
  next => cases hp

/-- What rounds to a finite number other than zero lies within the range of the format. -/
theorem bounds_of_ofRatio (hd : 0 < d) {negative s : Bool} {m : Nat} {q : Int}
    {canonical : Canonical m q} (hm : m ≠ 0)
    (h : ofRatio negative n d = finite s m q canonical) :
    (2 : ℚ) ^ (-1076 : Int) ≤ n / d ∧ (n / d : ℚ) < 2 ^ (1024 : Int) := by
  unfold ofRatio at h
  by_cases hn : n = 0
  · rw [if_pos hn] at h
    cases h
    exact absurd rfl hm
  rw [if_neg hn] at h
  have exponent := lastExponent_eq (Nat.pos_of_ne_zero hn) hd
  have pos : (0 : ℚ) < n / d := by
    have hn : (0 : ℚ) < n := by exact_mod_cast Nat.pos_of_ne_zero hn
    positivity
  constructor
  · by_contra small
    rw [not_le] at small
    have log : Int.log 2 (n / d : ℚ) < -1076 :=
      (Int.lt_zpow_iff_log_lt Nat.one_lt_two pos).1 (by exact_mod_cast small)
    have least : lastExponent n d = -1074 := by omega
    have zero : roundQuotient (scaled n d 1074).1 (scaled n d 1074).2 = 0 := by
      have ratio := scaled_ratio n d 1074
      have quarter : ((scaled n d 1074).1 / (scaled n d 1074).2 : ℚ) < 1 / 4 := by
        rw [ratio]
        calc (n / d : ℚ) * 2 ^ (1074 : Int) < 2 ^ (-1076 : Int) * 2 ^ (1074 : Int) := by gcongr
          _ = 2 ^ (-1076 + 1074 : Int) := (zpow_add₀ two_ne_zero _ _).symm
          _ = 1 / 4 := by norm_num
      have posq : (0 : ℚ) < (scaled n d 1074).2 := by exact_mod_cast scaled_pos hd n 1074
      rw [div_lt_iff₀ posq] at quarter
      refine roundQuotient_eq_zero ?_
      have half : (2 * (scaled n d 1074).1 : ℚ) < (scaled n d 1074).2 := by linarith
      exact_mod_cast half
    simp only [least, neg_neg, zero] at h
    exact hm (exponent_le_of_ofParts h).2.1
  · have bound : lastExponent n d ≤ 971 := by
      dsimp only at h
      split at h
      · have := (exponent_le_of_ofParts h).1
        omega
      · exact (exponent_le_of_ofParts h).1
    have log : Int.log 2 (n / d : ℚ) < 1024 := by omega
    exact_mod_cast (Int.lt_zpow_iff_log_lt Nat.one_lt_two pos).2 log

theorem ofRatio_negative {negative s : Bool} {m : Nat} {q : Int} {canonical : Canonical m q}
    (h : ofRatio negative n d = finite s m q canonical) (negative' : Bool) :
    ofRatio negative' n d = finite negative' m q canonical := by
  unfold ofRatio at h ⊢
  split at h
  next hn =>
    cases h
    rw [if_pos hn]
    rfl
  next hn =>
    rw [if_neg hn]
    dsimp only at h ⊢
    split at h
    next full =>
      obtain ⟨-, rfl, -, rfl⟩ := exponent_le_of_ofParts h
      rw [if_pos full]
      exact ofParts_of_canonical canonical negative'
    next partial' =>
      obtain ⟨-, rfl, -, rfl⟩ := exponent_le_of_ofParts h
      rw [if_neg partial']
      exact ofParts_of_canonical canonical negative'

/-! ## Rounding a decimal -/

/-- A decimal this large lies past the greatest finite number. -/
theorem large_decimal {c : Nat} {e : Int} (hc : c ≠ 0)
    (h : 400 < (Nat.log2 c : Int) / 4 + e) : (2 : ℚ) ^ (1024 : Int) ≤ c * 10 ^ e := by
  have tens : (10 : ℚ) ^ ((Nat.log2 c : Int) / 4) ≤ c := by
    calc (10 : ℚ) ^ ((Nat.log2 c : Int) / 4)
        ≤ (2 ^ (4 : Int)) ^ ((Nat.log2 c : Int) / 4) :=
          zpow_le_zpow_left₀ (by omega) (by norm_num) (by norm_num)
      _ = 2 ^ (4 * ((Nat.log2 c : Int) / 4)) := (zpow_mul _ _ _).symm
      _ ≤ 2 ^ (Nat.log2 c : Int) := zpow_le_zpow_right₀ (by norm_num) (by omega)
      _ ≤ c := by exact_mod_cast Nat.log2_self_le hc
  calc (2 : ℚ) ^ (1024 : Int) ≤ 2 ^ (3 * 400 : Int) :=
        zpow_le_zpow_right₀ (by norm_num) (by norm_num)
    _ = (2 ^ (3 : Int)) ^ (400 : Int) := zpow_mul _ _ _
    _ ≤ 10 ^ (400 : Int) := zpow_le_zpow_left₀ (by norm_num) (by norm_num) (by norm_num)
    _ ≤ 10 ^ ((Nat.log2 c : Int) / 4 + e) := zpow_le_zpow_right₀ (by norm_num) h.le
    _ = 10 ^ ((Nat.log2 c : Int) / 4) * 10 ^ e := zpow_add₀ (by norm_num) _ _
    _ ≤ c * 10 ^ e := by gcongr

/-- A decimal this small lies below half of the least number. -/
theorem small_decimal {c : Nat} {e : Int} (h : (Nat.log2 c : Int) + e < -400) :
    (c * 10 ^ e : ℚ) < 2 ^ (-1076 : Int) := by
  have tens : (c : ℚ) < 10 ^ ((Nat.log2 c : Int) + 1) := by
    calc (c : ℚ) < 2 ^ ((Nat.log2 c : Int) + 1) := by exact_mod_cast Nat.lt_log2_self
      _ ≤ 10 ^ ((Nat.log2 c : Int) + 1) :=
          zpow_le_zpow_left₀ (by omega) (by norm_num) (by norm_num)
  calc (c * 10 ^ e : ℚ) < 10 ^ ((Nat.log2 c : Int) + 1) * 10 ^ e := by gcongr
    _ = 10 ^ ((Nat.log2 c : Int) + 1 + e) := (zpow_add₀ (by norm_num) _ _).symm
    _ ≤ 10 ^ (-400 : Int) := zpow_le_zpow_right₀ (by norm_num) (by omega)
    _ = (10 ^ (400 : Int))⁻¹ := zpow_neg _ _
    _ ≤ ((2 ^ (3 : Int)) ^ (400 : Int))⁻¹ := by
        gcongr
        exact zpow_le_zpow_left₀ (by norm_num) (by norm_num) (by norm_num)
    _ = 2 ^ (-(3 * 400) : Int) := by rw [← zpow_mul, ← zpow_neg]
    _ ≤ 2 ^ (-1076 : Int) := zpow_le_zpow_right₀ (by norm_num) (by norm_num)

/-- A decimal rounds as its ratio does: where the power of ten is not formed, no finite
number other than zero is meant. -/
theorem ofDecimal_eq_finite_iff (hd : 0 < d) {c : Nat} {e : Int}
    (ratio : (n / d : ℚ) = c * 10 ^ e) {negative s : Bool} {m : Nat} {q : Int}
    {canonical : Canonical m q} (hm : m ≠ 0) :
    ofDecimal negative c e = finite s m q canonical ↔
      ofRatio negative n d = finite s m q canonical := by
  have dPos : (0 : ℚ) < d := by exact_mod_cast hd
  by_cases hc : c = 0
  · have hn : n = 0 := by
      rw [hc, Nat.cast_zero, zero_mul, div_eq_zero_iff] at ratio
      exact_mod_cast ratio.resolve_right dPos.ne'
    simp [ofDecimal, ofRatio, hc, hn]
  have bounds (h : ofRatio negative n d = finite s m q canonical) := bounds_of_ofRatio hd hm h
  rw [ratio] at bounds
  unfold ofDecimal
  simp only [if_neg hc]
  by_cases large : 400 < (Nat.log2 c : Int) / 4 + e
  · rw [if_pos large]
    refine iff_of_false (by simp) fun h => ?_
    exact absurd (large_decimal hc large) (not_le_of_gt (bounds h).2)
  by_cases small : (Nat.log2 c : Int) + e < -400
  · rw [if_neg large, if_pos small]
    refine iff_of_false (fun h => ?_) fun h => ?_
    · cases h
      exact hm rfl
    · exact absurd (small_decimal small) (not_lt_of_ge (bounds h).1)
  rw [if_neg large, if_neg small]
  have same : (if 0 ≤ e then ofRatio negative (c * Nat.pow 10 e.toNat) 1
      else ofRatio negative c (Nat.pow 10 (-e).toNat)) = ofRatio negative n d := by
    split
    next he =>
      refine ofRatio_congr Nat.one_pos hd ?_ negative
      obtain ⟨j, rfl⟩ := Int.eq_ofNat_of_zero_le he
      rw [ratio]
      simp
    next he =>
      refine ofRatio_congr (Nat.pow_pos (by norm_num)) hd ?_ negative
      obtain ⟨j, hj⟩ := Int.eq_ofNat_of_zero_le (a := -e) (by omega)
      obtain rfl : e = -j := by omega
      rw [ratio]
      simp [div_eq_mul_inv]
  rw [same]

theorem exists_ratio (c : Nat) (e : Int) :
    ∃ n d : Nat, 0 < d ∧ (n / d : ℚ) = c * 10 ^ e := by
  have nonneg : (0 : ℚ) ≤ c * 10 ^ e := by positivity
  generalize (c * 10 ^ e : ℚ) = r at nonneg
  refine ⟨r.num.toNat, r.den, r.pos, ?_⟩
  have num : ((r.num.toNat : Int) : ℚ) = r.num := by
    rw [Int.toNat_of_nonneg (Rat.num_nonneg.2 nonneg)]
  rw [Int.cast_natCast] at num
  rw [num, Rat.num_div_den]

/-- Two ways to write the same decimal round to the same number. -/
theorem ofDecimal_congr {c c' : Nat} {e e' : Int} (h : (c * 10 ^ e : ℚ) = c' * 10 ^ e')
    {negative s : Bool} {m : Nat} {q : Int} {canonical : Canonical m q} (hm : m ≠ 0)
    (rounds : ofDecimal negative c e = finite s m q canonical) (negative' : Bool) :
    ofDecimal negative' c' e' = finite negative' m q canonical := by
  obtain ⟨n, d, hd, ratio⟩ := exists_ratio c e
  have rounded := (ofDecimal_eq_finite_iff hd ratio hm).1 rounds
  exact (ofDecimal_eq_finite_iff hd (ratio.trans h) hm).2 (ofRatio_negative rounded negative')

/-- A decimal that is a number of the format is that number. -/
theorem ofDecimal_exact {c : Nat} {e : Int} {m : Nat} {q : Int} (canonical : Canonical m q)
    (hm : m ≠ 0) (h : (c * 10 ^ e : ℚ) = m * 2 ^ q) (negative : Bool) :
    ofDecimal negative c e = finite negative m q canonical := by
  obtain ⟨n, d, hd, ratio⟩ := exists_ratio c e
  exact (ofDecimal_eq_finite_iff hd ratio hm).2
    (ofRatio_exact hd canonical hm (ratio.trans h) negative)

end

end FilterQuery.Binary64
