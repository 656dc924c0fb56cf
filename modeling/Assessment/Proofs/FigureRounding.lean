import Assessment.Proofs.DecimalValue
import Assessment.Proofs.DyadicValue

/-!
# How far rounding to figures goes

Rounding to figures moves a number by at most half a unit of its last figure, or at most
doubles it where two roundings follow each other.  Hence only a number that is about as great
as the greatest double can leave the range, and only if it is rounded to significant figures,
of which there are at most sixteen.
-/

namespace Assessment

open Real64

theorem divideHalfUp_mul_le (top bottom : Nat) :
    divideHalfUp top bottom * bottom ≤ 2 * top := by
  have twice : divideHalfUp top bottom * (2 * bottom) ≤ 2 * top + bottom :=
    Nat.div_mul_le_self _ _
  rcases Nat.eq_zero_or_pos (divideHalfUp top bottom) with zero | some
  · rw [zero, Nat.zero_mul]
    exact Nat.zero_le _
  · have unit := Nat.le_mul_of_pos_left bottom some
    rw [Nat.mul_left_comm] at twice
    omega

theorem divideHalfEven_near_quotient (top : Nat) {bottom : Nat} (positive : 0 < bottom) :
    (divideHalfEven top bottom : ℚ) ≤ top / bottom + 1 / 2 ∧
      (top / bottom : ℚ) ≤ divideHalfEven top bottom + 1 / 2 := by
  obtain ⟨lower, upper⟩ := divideHalfEven_near top positive
  have divisor : (0 : ℚ) < bottom := by exact_mod_cast positive
  have lower' : (2 * top : ℚ) ≤ 2 * (divideHalfEven top bottom * bottom) + bottom := by
    exact_mod_cast lower
  have upper' : (2 * (divideHalfEven top bottom * bottom) : ℚ) ≤ 2 * top + bottom := by
    exact_mod_cast upper
  rw [← sub_le_iff_le_add, le_div_iff₀ divisor, div_le_iff₀ divisor]
  constructor <;> linarith

/-- A power with an exponent of any sign as a fraction of powers. -/
theorem zpow_eq_div (base : Nat) (power : Int) :
    (base ^ power : ℚ) = (if 0 ≤ power then Nat.pow base power.toNat else 1 : Nat) /
      (if 0 ≤ power then 1 else Nat.pow base (-power).toNat : Nat) := by
  split
  next whole =>
    obtain ⟨k, rfl⟩ := Int.eq_ofNat_of_zero_le whole
    rw [Int.toNat_natCast, Nat.pow_eq, zpow_natCast, Nat.cast_one, div_one, Nat.cast_pow]
  next fraction =>
    obtain ⟨k, rfl⟩ : ∃ k : Nat, power = -k := ⟨(-power).toNat, by omega⟩
    rw [Int.neg_neg, Int.toNat_natCast, Nat.pow_eq, zpow_neg, zpow_natCast, Nat.cast_one,
      one_div, Nat.cast_pow]

namespace Decimal

/-! ## Rounding in decimal arithmetic -/

variable {d : Decimal}

theorem stripZeros_mul (limit n : Nat) (power : Int) :
    ((stripZeros limit n power).1 * 10 ^ (stripZeros limit n power).2 : ℚ) = n * 10 ^ power := by
  induction limit generalizing n power with
  | zero => rfl
  | succ limit induction =>
      rw [stripZeros]
      split
      next zero =>
        have parts := Nat.div_mul_cancel (Nat.dvd_of_mod_eq_zero (beq_iff_eq.mp zero))
        rw [induction, zpow_add_one₀ (by norm_num)]
        nth_rewrite 2 [← parts]
        push_cast
        ring
      next => rfl

theorem magnitude_dropDigits_le (count : Nat) (d : Decimal) :
    (d.dropDigits count).magnitude ≤ 2 * d.magnitude := by
  have bound : (divideHalfUp d.coefficient (10 ^ count) * 10 ^ count : ℚ) ≤
      2 * d.coefficient := by
    exact_mod_cast divideHalfUp_mul_le d.coefficient (10 ^ count)
  calc (d.dropDigits count).magnitude
      = divideHalfUp d.coefficient (10 ^ count) * 10 ^ count * 10 ^ d.exponent := by
        rw [magnitude, dropDigits, zpow_add₀ (by norm_num), zpow_natCast, Nat.pow_eq,
          mul_right_comm, ← mul_assoc]
    _ ≤ 2 * d.coefficient * 10 ^ d.exponent := by gcongr
    _ = 2 * d.magnitude := mul_assoc _ _ _

theorem magnitude_toPlaces_le (places : Nat) (d : Decimal) :
    (d.toPlaces places).magnitude ≤ 2 * d.magnitude := by
  unfold toPlaces
  split
  next => linarith [d.magnitude_nonneg]
  next => exact magnitude_dropDigits_le _ d

/-- The digits beyond those that decimal arithmetic holds are dropped first. -/
theorem magnitude_roundTo_le (mode : RoundingMode) (digits : Nat) (d : Decimal) :
    (d.roundTo mode digits).magnitude ≤ 4 * d.magnitude := by
  let held : Decimal := (⟨d.negative && d.coefficient != 0, d.coefficient, d.exponent⟩ :
    Decimal).toPlaces maximumPlaces
  have first : held.magnitude ≤ 2 * d.magnitude := magnitude_toPlaces_le _ _
  have second : (d.roundTo mode digits).magnitude ≤ 2 * held.magnitude := by
    cases mode with
    | decimalPlaces => exact magnitude_toPlaces_le _ held
    | significantFigures => exact magnitude_dropDigits_le _ held
  linarith

end Decimal

namespace Dyadic

variable {x : Dyadic}

theorem abs_value_eq_ratio (x : Dyadic) : |x.value| = x.ratio.1 / x.ratio.2 := by
  have nonneg : (0 : ℚ) ≤ x.ratio.1 / x.ratio.2 := by positivity
  rw [value_eq_ratio]
  split
  next => rw [abs_neg, abs_of_nonneg nonneg]
  next => exact abs_of_nonneg nonneg

/-! ## The shortest decimal -/

/-- What is found lies between the ends, in whole numbers of the common unit. -/
theorem Rounding.inside_of_onGrid? {r : Rounding} {power : Int} {n : Nat}
    (found : r.onGrid? power = some n) :
    n * (r.denominator * (if 0 ≤ power then Nat.pow 10 power.toNat else 1)) ≤
      r.upper * (if 0 ≤ power then 1 else Nat.pow 10 (-power).toNat) := by
  unfold onGrid? at found
  extract_lets up unit value inside low high at found
  -- each branch answers with a neighbour that has been tested
  have holds : inside n = true := by
    split at found
    next => cases found
    next isLow _ => rwa [← Option.some.inj found]
    next isHigh => rwa [← Option.some.inj found]
    next isLow isHigh =>
      split at found
      next => rwa [← Option.some.inj found]
      next =>
        split at found
        next => rwa [← Option.some.inj found]
        next =>
          rw [← Option.some.inj found]
          split
          next => exact isLow
          next => exact isHigh
  dsimp only [inside] at holds
  split at holds
  next => exact of_decide_eq_true (Bool.and_eq_true_iff.mp holds).2
  next => exact (of_decide_eq_true (Bool.and_eq_true_iff.mp holds).2).le

theorem Rounding.onGrid?_le {r : Rounding} {power : Int} {n : Nat} (positive : 0 < r.denominator)
    (found : r.onGrid? power = some n) : (n * 10 ^ power : ℚ) ≤ r.upper / r.denominator := by
  have fraction := zpow_eq_div 10 power
  have inside := inside_of_onGrid? found
  have places : 0 < (if 0 ≤ power then 1 else Nat.pow 10 (-power).toNat) := by
    split
    next => exact Nat.one_pos
    next => exact Nat.pow_pos (by decide)
  generalize (if 0 ≤ power then Nat.pow 10 power.toNat else 1) = top at *
  generalize (if 0 ≤ power then 1 else Nat.pow 10 (-power).toNat) = bottom at *
  have bound : (n * top * r.denominator : ℚ) ≤ r.upper * bottom := by
    rw [Nat.mul_comm r.denominator, ← Nat.mul_assoc] at inside
    exact_mod_cast inside
  rw [show (10 : ℚ) = (10 : Nat) from rfl, fraction, ← mul_div_assoc,
    div_le_div_iff₀ (by exact_mod_cast places) (by exact_mod_cast positive)]
  exact bound

theorem rounding_denominator_positive (x : Dyadic) : 0 < x.rounding.denominator := by
  unfold rounding
  dsimp only
  split
  next => exact Nat.one_pos
  next => exact Nat.two_pow_pos _

/-- The numbers that read back as a double are at most half a unit above it. -/
theorem rounding_upper (x : Dyadic) :
    (x.rounding.upper / x.rounding.denominator : ℚ) =
      (4 * x.significand + 2) * 2 ^ (x.exponent - 2) := by
  rw [show (2 : ℚ) ^ (x.exponent - 2) = (2 : Nat) ^ (x.exponent - 2) from rfl, zpow_eq_div,
    ← mul_div_assoc]
  unfold rounding
  dsimp only
  congr 1
  push_cast
  rfl

theorem abs_value_eq (x : Dyadic) : |x.value| = x.significand * 2 ^ x.exponent := by
  rw [value, abs_mul, abs_of_pos (show (0 : ℚ) < 2 ^ x.exponent by positivity)]
  split
  next => rw [abs_neg, Nat.abs_cast]
  next => rw [Nat.abs_cast]

theorem magnitude_shortest_le (x : Dyadic) : x.shortest.magnitude ≤ 2 * |x.value| := by
  unfold shortest
  split
  next => simp [Decimal.magnitude]
  next some =>
    have significant : (1 : ℚ) ≤ x.significand := by
      exact_mod_cast Nat.one_le_iff_ne_zero.mpr (mt beq_iff_eq.mpr some)
    extract_lets r top found
    have bound : (found.getD (0, 0)).1 * 10 ^ (found.getD (0, 0)).2 ≤ 2 * |x.value| := by
      cases result : found with
      | none => simp
      | some decimal =>
          obtain ⟨extra, _, onGrid⟩ := List.exists_of_findSome?_eq_some result
          obtain ⟨n, grid, rfl⟩ := Option.map_eq_some_iff.mp onGrid
          have upper := Rounding.onGrid?_le (rounding_denominator_positive x) grid
          rw [rounding_upper, zpow_sub₀ two_ne_zero] at upper
          have unit : (0 : ℚ) < 2 ^ x.exponent := by positivity
          calc (n * 10 ^ (top - extra) : ℚ)
              ≤ (4 * x.significand + 2) * (2 ^ x.exponent / 2 ^ (2 : Int)) := upper
            _ = (x.significand + 1 / 2) * 2 ^ x.exponent := by ring
            _ ≤ (2 * x.significand) * 2 ^ x.exponent := by
              gcongr
              linarith
            _ = 2 * |x.value| := by rw [abs_value_eq, mul_assoc]
    rw [← Decimal.stripZeros_mul 17] at bound
    exact bound

/-! ## Rounding of the exact number -/

/-- The multiple of a power of ten is off by at most half of that power. -/
theorem roundToPower_near (power : Int) (x : Dyadic) :
    (x.roundToPower power).magnitude ≤ |x.value| + 10 ^ power / 2 ∧
      |x.value| ≤ (x.roundToPower power).magnitude + 10 ^ power / 2 := by
  have divisor : (x.ratio.2 : ℚ) ≠ 0 := by exact_mod_cast x.ratio_positive.ne'
  have unit : (0 : ℚ) < 10 ^ power := by positivity
  obtain ⟨top, bottom, positive, rounded, value⟩ : ∃ top bottom, 0 < bottom ∧
      x.roundToPower power = ⟨x.negative, divideHalfEven top bottom, power⟩ ∧
        |x.value| = top / bottom * 10 ^ power := by
    rw [abs_value_eq_ratio]
    by_cases whole : 0 ≤ power
    · obtain ⟨k, rfl⟩ := Int.eq_ofNat_of_zero_le whole
      refine ⟨x.ratio.1, x.ratio.2 * 10 ^ k,
        Nat.mul_pos x.ratio_positive (Nat.pow_pos (by decide)), ?_, ?_⟩
      · simp only [roundToPower, if_pos whole, Int.toNat_natCast, Nat.pow_eq]
      · rw [zpow_natCast]
        push_cast
        field_simp
    · obtain ⟨k, rfl⟩ : ∃ k : Nat, power = -k := ⟨(-power).toNat, by omega⟩
      refine ⟨x.ratio.1 * 10 ^ k, x.ratio.2, x.ratio_positive, ?_, ?_⟩
      · simp only [roundToPower, if_neg whole, Int.neg_neg, Int.toNat_natCast, Nat.pow_eq]
      · rw [zpow_neg, zpow_natCast]
        push_cast
        field_simp
  obtain ⟨upper, lower⟩ := divideHalfEven_near_quotient top positive
  rw [rounded, value, Decimal.magnitude]
  constructor
  · linarith [mul_le_mul_of_nonneg_right upper unit.le]
  · linarith [mul_le_mul_of_nonneg_right lower unit.le]

theorem leadingPower_zero {bottom : Nat} (positive : 0 < bottom) : leadingPower 0 bottom = -1 := by
  have notExact : ¬((0 * Nat.pow 10 (Decimal.digitCount (bottom / 0) - 1) == bottom) = true) := by
    rw [beq_iff_eq, Nat.zero_mul]
    exact positive.ne
  rw [leadingPower, if_neg (Nat.not_le.mpr positive)]
  dsimp only
  rw [if_neg notExact, Nat.div_zero]
  rfl

/-- The first digit of a fraction does not stand above the fraction. -/
theorem ten_pow_leadingPower_le {top bottom : Nat} (positive : 0 < top) (positive' : 0 < bottom) :
    (10 ^ leadingPower top bottom : ℚ) ≤ top / bottom := by
  have divisor : (0 : ℚ) < bottom := by exact_mod_cast positive'
  unfold leadingPower
  split
  next whole =>
    obtain ⟨others, count, -, lower⟩ := Decimal.digitCount_bounds (top / bottom)
    have digits := lower (Nat.div_pos whole positive').ne'
    have power : ((Decimal.digitCount (top / bottom) : Nat) : Int) - 1 = others := by omega
    rw [Nat.le_div_iff_mul_le positive'] at digits
    rw [power, zpow_natCast, le_div_iff₀ divisor]
    exact_mod_cast digits
  next fraction =>
    obtain ⟨others, count, digits, -⟩ := Decimal.digitCount_bounds (bottom / top)
    rw [count]
    dsimp only
    split
    next exact =>
      rw [beq_iff_eq, Nat.add_sub_cancel, Nat.pow_eq] at exact
      have power : (1 : Int) - (others + 1 : Nat) = -others := by omega
      have nonzero : (top : ℚ) ≠ 0 := by exact_mod_cast positive.ne'
      rw [power, zpow_neg, zpow_natCast, ← exact]
      push_cast
      rw [div_mul_cancel_left₀ nonzero]
    next =>
      have bound : (bottom : ℚ) ≤ top * 10 ^ (others + 1) := by
        rw [Nat.div_lt_iff_lt_mul positive, Nat.mul_comm] at digits
        exact_mod_cast digits.le
      rw [zpow_neg, zpow_natCast, ← one_div, div_le_div_iff₀ (by positivity) divisor, one_mul]
      exact bound

end Dyadic

namespace Real64

variable {x : Float} {q : ℚ}

theorem holds_abs (holds : Holds x q) : Holds x.abs |q| := by
  have magnitude : Denotes x.toModel.unpack.abs |q| := by
    unfold Holds at holds
    generalize x.toModel.unpack = a at *
    cases holds with
    | zero sign =>
        rw [abs_zero]
        exact .zero _
    | @finite sign m e positive canonical =>
        rw [abs_apply_mul, ← positive_apply_mul]
        exact .finite _ positive canonical
  exact magnitude.holds

/-- Numbers that decimal arithmetic holds are far from the greatest double. -/
theorem abs_lt_of_hasDecimalSize (holds : Holds x q) (small : hasDecimalSize x = true) :
    |q| < 2 ^ 67 := by
  have zero : Holds 0.0 0 := Denotes.zero .positive
  have limit : Holds 1e20 (Dyadic.value ⟨false, 6103515625000000, 14⟩) :=
    holds_value (by decide +kernel)
  rw [hasDecimalSize, Bool.or_eq_true_iff, holds.beq_iff zero, Bool.and_eq_true_iff,
    decide_eq_true_iff, decide_eq_true_iff, (holds_abs holds).lt_iff limit] at small
  rcases small with rfl | ⟨-, small⟩
  · norm_num
  · refine small.trans ?_
    norm_num [Dyadic.value]

/-- The greatest doubles are half a unit below the limit. -/
theorem abs_le_of_holds (holds : Holds x q) : |q| + 2 ^ (970 : Int) ≤ overflowLimit := by
  have bound : |q| ≤ (2 ^ 53 - 1) * 2 ^ (1 + 970 : Int) := by
    unfold Holds at holds
    generalize x.toModel.unpack = a at *
    cases holds with
    | zero =>
        rw [abs_zero]
        exact mul_nonneg (by norm_num) (by positivity)
    | @finite sign m e positive canonical =>
        have short : (m : ℚ) ≤ 2 ^ 53 - 1 := by
          have whole : m + 1 ≤ 2 ^ 53 := canonical.short
          rw [le_sub_iff_add_le]
          exact_mod_cast whole
        rw [abs_apply_mul]
        exact mul_le_mul short (zpow_le_zpow_right₀ one_le_two canonical.greatest)
          (by positivity) (by norm_num)
  rw [zpow_add₀ two_ne_zero, zpow_one] at bound
  rw [overflowLimit_eq]
  generalize (2 : ℚ) ^ (970 : Int) = unit at *
  linarith

theorem abs_lt_of_holds (holds : Holds x q) : |q| < overflowLimit := by
  have half : (0 : ℚ) < 2 ^ (970 : Int) := by positivity
  exact (lt_add_of_pos_right _ half).trans_le (abs_le_of_holds holds)

theorem ten_pow_le_overflowLimit : 155 * 10 ^ (306 : Int) ≤ overflowLimit := by
  have powers : 155 * 10 ^ 306 ≤ 18014398509481983 * 2 ^ 970 := by decide +kernel
  rw [overflowLimit_eq, show (2 ^ 54 - 1 : ℚ) = 18014398509481983 by norm_num]
  exact_mod_cast powers

end Real64

namespace Dyadic

variable {x : Dyadic} {y : Float}

/-! ## Overflow -/

/-- A unit that is less than that of the greatest doubles does not lead beyond the limit. -/
theorem magnitude_roundToPower_lt (holds : Holds y x.value) {power : Int} (fine : power ≤ 292) :
    (x.roundToPower power).magnitude < overflowLimit := by
  have near := (roundToPower_near power x).1
  have bound := abs_le_of_holds holds
  have unit : (10 ^ power : ℚ) ≤ 10 ^ (292 : Int) := zpow_le_zpow_right₀ (by norm_num) fine
  have less : (10 ^ (292 : Int) : ℚ) < 2 * 2 ^ (970 : Int) := by
    exact_mod_cast show 10 ^ 292 < 2 * 2 ^ 970 by decide +kernel
  generalize (2 : ℚ) ^ (970 : Int) = half at *
  generalize (10 : ℚ) ^ (292 : Int) = last at *
  linarith

/-- Decimal places stand behind the point, where the units are small. -/
theorem magnitude_decimalPlaces_lt (holds : Holds y x.value) (digits : Nat) :
    (x.roundTo .decimalPlaces digits).magnitude < overflowLimit :=
  magnitude_roundToPower_lt holds (by omega)

/-- A number that is rounded beyond the limit is at most half a unit below it. -/
theorem great_of_beyond {power : Int} (first : power ≤ 308)
    (beyond : overflowLimit ≤ (x.roundToPower power).magnitude) :
    3 / 2 * 10 ^ (308 : Int) ≤ |x.value| := by
  have near := (roundToPower_near power x).1
  have limit := ten_pow_le_overflowLimit
  have unit : (10 : ℚ) ^ (308 : Int) = 100 * 10 ^ (306 : Int) := by
    rw [show (308 : Int) = 2 + 306 from rfl, zpow_add₀ (by norm_num)]
    norm_num
  rcases first.lt_or_eq with fine | rfl
  · have fraction : (10 ^ power : ℚ) ≤ 10 ^ (1 + 306 : Int) :=
      zpow_le_zpow_right₀ (by norm_num) (by omega)
    rw [zpow_add₀ (by norm_num), zpow_one] at fraction
    rw [unit]
    generalize (10 : ℚ) ^ (306 : Int) = unit at *
    linarith
  · -- the first digit is rounded to at least two
    have first : (x.roundToPower 308).magnitude =
      (x.roundToPower 308).coefficient * 10 ^ (308 : Int) := rfl
    rw [first] at beyond near
    generalize (x.roundToPower 308).coefficient = c at *
    have positive : (0 : ℚ) < 10 ^ (306 : Int) := by positivity
    rw [unit] at *
    generalize (10 : ℚ) ^ (306 : Int) = unit at *
    have two : 2 ≤ c := by
      by_contra one
      have small : (c : ℚ) ≤ 1 := by exact_mod_cast (show c ≤ 1 by omega)
      nlinarith
    have two' : (2 : ℚ) ≤ c := by exact_mod_cast two
    nlinarith

theorem leadingPower_le (holds : Holds y x.value) : leadingPower x.ratio.1 x.ratio.2 ≤ 308 := by
  rcases Nat.eq_zero_or_pos x.ratio.1 with zero | positive
  · rw [zero, leadingPower_zero x.ratio_positive]
    decide
  · have first := ten_pow_leadingPower_le positive x.ratio_positive
    have below : (10 ^ leadingPower x.ratio.1 x.ratio.2 : ℚ) < 10 ^ (309 : Int) := by
      calc (10 ^ leadingPower x.ratio.1 x.ratio.2 : ℚ) ≤ |x.value| := by rwa [abs_value_eq_ratio]
        _ ≤ overflowLimit := (abs_lt_of_holds holds).le
        _ ≤ 2 ^ (1024 : Int) := overflowLimit_lt_two_pow.le
        _ < 10 ^ (309 : Int) := by exact_mod_cast two_pow_lt_ten_pow
    exact Int.le_of_lt_add_one ((zpow_lt_zpow_iff_right₀ (by norm_num)).mp below)

/-- With seventeen figures or more the unit of the last one is too small. -/
theorem figures_le_of_beyond (holds : Holds y x.value) {digits : Nat}
    (beyond : overflowLimit ≤ (x.roundTo .significantFigures digits).magnitude) :
    digits ≤ 16 ∧ 3 / 2 * 10 ^ (308 : Int) ≤ |x.value| := by
  have first := leadingPower_le holds
  obtain ⟨power, rounded, shown⟩ : ∃ power, x.roundTo .significantFigures digits =
      x.roundToPower power ∧
        power = leadingPower x.ratio.1 x.ratio.2 - (min (digits - 1) maximumDigits : Nat) :=
    ⟨_, rfl, rfl⟩
  rw [rounded] at beyond
  refine ⟨?_, great_of_beyond (by omega) beyond⟩
  by_contra many
  have fine : power ≤ 292 := by
    unfold maximumDigits at shown
    omega
  exact absurd (magnitude_roundToPower_lt holds fine) (not_lt.mpr beyond)

end Dyadic

namespace Real64

variable {x y : Float} {mode : RoundingMode} {digits : Nat}

/-- Rounding to significant figures takes the number out of the range of doubles. -/
def Overshoots (digits : Nat) (x : Float) : Prop :=
  ∃ parts, Dyadic.ofFloat? x = some parts ∧
    overflowLimit ≤ (parts.roundTo .significantFigures digits).magnitude

/-- Numbers that decimal arithmetic holds stay in the range, and so do decimal places. -/
theorem isFinite_roundTo?_iff (rounded : roundTo? mode digits x = some y) :
    y.isFinite = true ↔ ¬(mode = .significantFigures ∧ Overshoots digits x) := by
  obtain ⟨parts, apart, rfl⟩ := Option.map_eq_some_iff.mp rounded
  have holds := holds_value apart
  have overshoots : Overshoots digits x ↔
      overflowLimit ≤ (parts.roundTo .significantFigures digits).magnitude := by
    simp [Overshoots, apart]
  rw [overshoots]
  split
  next ordinary =>
    have small := abs_lt_of_hasDecimalSize holds ordinary
    have inRange : (parts.shortest.roundTo mode digits).magnitude < overflowLimit := by
      refine lt_overflowLimit (k := 70) ?_ (by decide)
      have bound := Decimal.magnitude_roundTo_le mode digits parts.shortest
      have bound' := parts.magnitude_shortest_le
      norm_num at small ⊢
      linarith
    refine iff_of_true ((Decimal.isFinite_toFloat_iff _).mpr inRange) ?_
    rintro ⟨-, beyond⟩
    have great := (Dyadic.figures_le_of_beyond holds beyond).2
    have apart : (2 ^ 67 : ℚ) < 10 ^ (308 : Int) := by
      calc (2 ^ 67 : ℚ) < 10 ^ (21 : Int) := by norm_num
        _ ≤ 10 ^ (308 : Int) := zpow_le_zpow_right₀ (by norm_num) (by decide)
    generalize (10 : ℚ) ^ (308 : Int) = power at *
    linarith
  next =>
    rw [Decimal.isFinite_toFloat_iff]
    cases mode with
    | decimalPlaces => exact iff_of_true (Dyadic.magnitude_decimalPlaces_lt holds digits) (by simp)
    | significantFigures => simp

theorem roundTo?_cases (rounded : roundTo? mode digits x = some y) :
    y.isFinite = true ∨ y = infinity ∨ y = -infinity := by
  obtain ⟨parts, -, rfl⟩ := Option.map_eq_some_iff.mp rounded
  split
  next => exact Decimal.toFloat_cases _
  next => exact Decimal.toFloat_cases _

/-- Only the greatest doubles overshoot, and only if they are rounded to few figures. -/
theorem Overshoots.bounds (overshoots : Overshoots digits x) :
    digits ≤ 16 ∧ ∃ q, Holds x q ∧ 3 / 2 * 10 ^ 308 ≤ |q| := by
  obtain ⟨parts, apart, beyond⟩ := overshoots
  have holds := holds_value apart
  obtain ⟨few, great⟩ := Dyadic.figures_le_of_beyond holds beyond
  exact ⟨few, _, holds, great⟩

end Real64

end Assessment
