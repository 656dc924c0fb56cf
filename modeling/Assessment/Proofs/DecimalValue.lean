import Assessment.Proofs.DoubleOverflow

/-!
# Decimals as numbers

A decimal stands for a rational number, its coefficient times a power of ten.  The digits of
the coefficient tell how great the number is, so that what is left out of the range when a
decimal becomes a double would have become zero or infinity anyway.
-/

namespace Assessment

open Real64

/-- Double precision ends below this power of ten. -/
theorem two_pow_lt_ten_pow : 2 ^ 1024 < 10 ^ 309 := by
  decide +kernel

namespace Decimal

variable {d : Decimal}

/-! ## Digits -/

/-- Of the powers of ten, a number lies between the one at its first digit and the next. -/
theorem digitCount_bounds (n : Nat) :
    ∃ others, digitCount n = others + 1 ∧ n < 10 ^ (others + 1) ∧ (n ≠ 0 → 10 ^ others ≤ n) := by
  have fits {k : Nat} (positive : 0 < k) : digitCount n ≤ k ↔ n < 10 ^ k :=
    Nat.length_toDigits_le_iff (by decide) positive
  obtain ⟨others, count⟩ : ∃ others, digitCount n = others + 1 :=
    Nat.exists_eq_add_one.mpr Nat.length_toDigits_pos
  refine ⟨others, count, (fits (Nat.succ_pos others)).mp count.le, fun nonzero => ?_⟩
  rcases Nat.eq_zero_or_pos others with rfl | more
  · exact Nat.pos_of_ne_zero nonzero
  · exact Nat.not_lt.mp (mt (fits more).mpr (by omega))

/-! ## The number of a decimal -/

/-- The number without its sign. -/
def magnitude (d : Decimal) : ℚ :=
  d.coefficient * 10 ^ d.exponent

theorem magnitude_nonneg (d : Decimal) : 0 ≤ d.magnitude :=
  mul_nonneg (Nat.cast_nonneg _) (by positivity)

theorem magnitude_bounds (nonzero : d.coefficient ≠ 0) :
    10 ^ d.leading ≤ d.magnitude ∧ d.magnitude < 10 ^ (d.leading + 1) := by
  obtain ⟨others, count, upper, lower⟩ := digitCount_bounds d.coefficient
  have first : d.leading = others + d.exponent := by
    rw [leading, count]
    omega
  have next : d.leading + 1 = (others + 1 : Nat) + d.exponent := by
    rw [first]
    omega
  rw [next, first, zpow_add₀ (by norm_num), zpow_add₀ (by norm_num), zpow_natCast, zpow_natCast,
    magnitude]
  constructor
  · gcongr
    exact_mod_cast lower nonzero
  · gcongr
    exact_mod_cast upper

/-- A decimal becomes infinity just if it is beyond the range. -/
theorem toFloat_eq (d : Decimal) :
    ∃ x, OverflowsWith x d.magnitude ∧ d.toFloat = if d.negative then -x else x := by
  refine ⟨_, ?_, rfl⟩
  have zero (small : d.magnitude ≤ 2 ^ (0 : Int)) : OverflowsWith (0.0 : Float) d.magnitude :=
    .of_lt (by decide +kernel) (lt_overflowLimit small (by decide))
  split
  next none =>
    refine zero ?_
    rw [magnitude, beq_iff_eq.mp none]
    norm_num
  next some =>
    obtain ⟨lower, upper⟩ := magnitude_bounds (mt beq_iff_eq.mpr some)
    split
    next great =>
      have large : overflowLimit ≤ d.magnitude := by
        calc overflowLimit ≤ 2 ^ (1024 : Int) := overflowLimit_lt_two_pow.le
          _ ≤ 10 ^ (309 : Int) := by exact_mod_cast two_pow_lt_ten_pow.le
          _ ≤ 10 ^ d.leading := zpow_le_zpow_right₀ (by norm_num) (by omega)
          _ ≤ d.magnitude := lower
      exact .of_le rfl large
    next =>
      split
      next tiny =>
        refine zero (upper.le.trans ?_)
        exact zpow_le_one_of_nonpos₀ (by norm_num) (by omega)
      next =>
        have rounded := overflowsWith_ofScientific (mt beq_iff_eq.mpr some)
          (decide (d.exponent < 0)) d.exponent.natAbs
        have exponent : (if decide (d.exponent < 0) then -(d.exponent.natAbs : Int)
            else d.exponent.natAbs) = d.exponent := by
          split
          next negative =>
            rw [decide_eq_true_iff] at negative
            omega
          next positive =>
            rw [decide_eq_true_iff] at positive
            omega
        rwa [exponent] at rounded

theorem isFinite_toFloat_iff (d : Decimal) :
    d.toFloat.isFinite = true ↔ d.magnitude < overflowLimit := by
  obtain ⟨x, overflows, becomes⟩ := d.toFloat_eq
  rw [becomes, ← overflows.isFinite_iff]
  split
  next => rw [isFinite_neg]
  next => rfl

/-- No decimal becomes NaN. -/
theorem toFloat_cases (d : Decimal) :
    d.toFloat.isFinite = true ∨ d.toFloat = infinity ∨ d.toFloat = -infinity := by
  obtain ⟨x, overflows, becomes⟩ := d.toFloat_eq
  rcases lt_or_ge d.magnitude overflowLimit with below | beyond
  · exact .inl ((isFinite_toFloat_iff d).mpr below)
  · rw [becomes, overflows.infinite beyond]
    split
    next => exact .inr (.inr rfl)
    next => exact .inr (.inl rfl)

end Decimal

end Assessment
