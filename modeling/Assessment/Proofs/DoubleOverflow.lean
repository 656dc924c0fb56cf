import Assessment.Proofs.IntegerDouble

/-!
# Doubles beyond the range

The exponent of a double is bounded, so that a number that is too great becomes infinity.
Since results are rounded first, the limit is not the greatest double but the middle between
it and the next power of two: from there on a product, a quotient or a decimal is rounded
to infinity, and below it to a finite double.
-/

namespace Assessment

section Division

variable {top bottom n : Nat}

/-- The middle above an odd number is rounded up. -/
theorem divideHalfEven_le_iff (positive : 0 < bottom) (odd : n % 2 = 1) :
    divideHalfEven top bottom ≤ n ↔ 2 * top < (2 * n + 1) * bottom := by
  have parts := Nat.div_add_mod' top bottom
  have rest := Nat.mod_lt top positive
  have scaled : (2 * n + 1) * bottom = 2 * (n * bottom) + bottom := by ring
  rw [scaled]
  rcases Nat.lt_trichotomy (top / bottom) n with less | same | greater
  · have apart := Nat.mul_le_mul_right bottom less
    rw [Nat.succ_mul] at apart
    rcases divideHalfEven_eq_or top bottom with ⟨rounded, _⟩ | ⟨rounded, _⟩
    all_goals omega
  · subst same
    unfold divideHalfEven
    dsimp only
    split
    next => omega
    next =>
      split
      next => omega
      next => rw [if_neg (by simp [odd])]; omega
  · have apart := Nat.mul_le_mul_right bottom greater
    rw [Nat.succ_mul] at apart
    rcases divideHalfEven_eq_or top bottom with ⟨rounded, _⟩ | ⟨rounded, _⟩
    all_goals omega

end Division

namespace Real64

open Float.Model UnpackedFloat

/-- The middle between the greatest double and the next power of two. -/
def overflowLimit : ℚ :=
  2 ^ 1024 - 2 ^ 970

theorem overflowLimit_eq : overflowLimit = (2 ^ 54 - 1) * 2 ^ (970 : Int) := by
  rw [overflowLimit, sub_mul, one_mul, show (1024 : Nat) = 54 + 970 from rfl, pow_add]
  rfl

theorem lt_overflowLimit {q : ℚ} {k : Int} (le : q ≤ 2 ^ k) (small : k ≤ 1023) :
    q < overflowLimit := by
  calc q ≤ 2 ^ k := le
    _ ≤ 2 ^ (53 + 970 : Int) := zpow_le_zpow_right₀ one_le_two small
    _ < overflowLimit := by
      rw [overflowLimit_eq, zpow_add₀ two_ne_zero]
      gcongr
      norm_num

theorem overflowLimit_lt_two_pow : overflowLimit < 2 ^ (1024 : Int) := by
  rw [overflowLimit_eq, show (1024 : Int) = 54 + 970 from rfl, zpow_add₀ two_ne_zero]
  gcongr
  norm_num

/-- The double is infinity if the number is beyond the range, and finite otherwise. -/
structure OverflowsWith (x : Float) (q : ℚ) : Prop where
  finite : q < overflowLimit → x.isFinite = true
  infinite : overflowLimit ≤ q → x = infinity

theorem infinity_not_finite : infinity.isFinite = false := by
  decide +kernel

variable {x : Float} {q : ℚ}

theorem OverflowsWith.isFinite_iff (overflows : OverflowsWith x q) :
    x.isFinite = true ↔ q < overflowLimit := by
  refine ⟨fun finite => ?_, overflows.finite⟩
  by_contra beyond
  rw [overflows.infinite (not_lt.mp beyond), infinity_not_finite] at finite
  cases finite

theorem OverflowsWith.of_lt (finite : x.isFinite = true) (below : q < overflowLimit) :
    OverflowsWith x q :=
  ⟨fun _ => finite, fun beyond => absurd below (not_lt.mpr beyond)⟩

theorem OverflowsWith.of_le (infinite : x = infinity) (beyond : overflowLimit ≤ q) :
    OverflowsWith x q :=
  ⟨fun below => absurd below (not_lt.mpr beyond), fun _ => infinite⟩

theorem isFinite_neg (x : Float) : (-x).isFinite = x.isFinite := by
  cases finite : x.isFinite with
  | true =>
      obtain ⟨q, holds⟩ := exists_holds finite
      exact (holds_neg holds).isFinite
  | false => rcases eq_special_of_not_finite finite with rfl | rfl | rfl <;> decide +kernel

/-! ## Exponents -/

section Packing

variable {m : Nat} {e : Int} {sign : Sign} {positive : 0 < m}

theorem biased_eq (e : Int) :
    (e + Format.binary64.exponentBias + Format.binary64.mantissaBitsWithoutImplicit).toNat =
      (e + 1075).toNat :=
  congrArg Int.toNat (Int.add_assoc e 1023 52)

theorem isFinite_pack (bounded : e ≤ 971) :
    (Float.ofModel (.pack (.finite sign m e positive))).isFinite = true := by
  refine eq_true_of_ne_false fun notFinite => ?_
  have allSet := congrArg BitVec.toNat (exponentBits_of_not_finite notFinite)
  have packed : exponentBits (Float.ofModel (.pack (.finite sign m e positive))) =
      @unpackExponent Format.binary64 (pack Format.binary64 (.finite sign m e positive)) := rfl
  have fitting : ¬2 ^ 11 ≤ (e + 1075).toNat + 1 := by omega
  rw [packed, UnpackedFloat.pack, biased_eq, if_neg fitting] at allSet
  split at allSet
  next =>
    rw [unpackExponent_packComponents] at allSet
    have small : (e + 1075).toNat % 2 ^ 11 = 2047 := allSet
    omega
  next =>
    rw [unpackExponent_packComponents] at allSet
    cases allSet

theorem pack_eq_infinity (beyond : 972 ≤ e) :
    Float.ofModel (.pack (.finite .positive m e positive)) = infinity := by
  have packed : pack Format.binary64 (.finite .positive m e positive) =
      pack Format.binary64 (.infinity .positive) := by
    refine if_pos ?_
    rw [biased_eq]
    change 2 ^ 11 ≤ (e + 1075).toNat + 1
    omega
  exact eq_of_bits_eq (congrArg BitVec.toNat packed)

end Packing

/-! ## Rounding -/

section Rounding

variable {m top bottom : Nat} {e : Int} {accuracy : Accuracy}

theorem Divided.eq_div (divided : Divided (.ofMantissaAndAccuracy m accuracy) top bottom) :
    m = top / bottom := by
  rw [← divided.mantissa]
  cases accuracy with
  | exact => rfl
  | inexact order => cases order <;> rfl

theorem lt_of_div_eq (quotient : m = top / bottom) (positive : 0 < bottom) :
    top < 2 ^ 53 * (bottom * 2 ^ surplus m) := by
  have bits : m + 1 ≤ 2 ^ (53 + surplus m) := by
    refine Nat.lt_log2_self.trans_le (Nat.pow_le_pow_right Nat.two_pos ?_)
    unfold surplus
    omega
  calc top < (m + 1) * bottom := by
        rw [quotient, ← Nat.div_lt_iff_lt_mul positive]
        exact Nat.lt_succ_self _
    _ ≤ 2 ^ (53 + surplus m) * bottom := Nat.mul_le_mul_right _ bits
    _ = 2 ^ 53 * (bottom * 2 ^ surplus m) := by rw [Nat.pow_add]; ring

/-- The exponent after both passes decides. -/
theorem roundWithAccuracy_cases
    (divided : Divided (.ofMantissaAndAccuracy m accuracy) top bottom) (positive : 0 < bottom)
    (least : -1074 ≤ e + surplus m) :
    let rounded := divideHalfEven top (bottom * 2 ^ surplus m)
    let x := Float.ofModel (.pack (roundWithAccuracy Format.binary64 .positive m e accuracy))
    rounded ≤ 2 ^ 53 ∧
      (e + surplus m + surplus rounded ≤ 971 → x.isFinite = true) ∧
      (rounded ≠ 0 → 972 ≤ e + surplus m + surplus rounded → x = infinity) := by
  intro rounded x
  have upper : rounded ≤ 2 ^ 53 := by
    have unit : 0 < bottom * 2 ^ surplus m := Nat.mul_pos positive (Nat.two_pow_pos _)
    have below := divideHalfEven_mono unit (lt_of_div_eq divided.eq_div positive).le
    rwa [divideHalfEven_mul _ unit] at below
  obtain ⟨-, restored⟩ := carry upper
  have result := roundWithAccuracy_eq .positive divided positive least
  dsimp only at result
  refine ⟨upper, fun bounded => ?_, fun nonzero beyond => ?_⟩
  · rw [show x = _ from congrArg (Float.ofModel <| .pack ·) result]
    split
    next => rfl
    next => exact isFinite_pack bounded
  · have significand : rounded / 2 ^ surplus rounded ≠ 0 := by
      intro zero
      rw [zero, Nat.zero_mul] at restored
      exact nonzero restored.symm
    rw [show x = _ from congrArg (Float.ofModel <| .pack ·) result, dif_neg significand]
    exact pack_eq_infinity beyond

/-! Where fifty-three bits of a quotient stand decides how it compares with the limit. -/

theorem quotient_lt_overflowLimit (positive : 0 < bottom) (upper : top < 2 ^ 53 * bottom)
    (small : e ≤ 970) : (top / bottom * 2 ^ e : ℚ) < overflowLimit := by
  have divisor : (0 : ℚ) < bottom := by exact_mod_cast positive
  refine lt_overflowLimit (k := 53 + e) ?_ (by omega)
  rw [zpow_add₀ two_ne_zero]
  gcongr
  rw [div_le_iff₀ divisor]
  exact_mod_cast upper.le

theorem overflowLimit_le_quotient (positive : 0 < bottom) (lower : 2 ^ 52 * bottom ≤ top)
    (great : 972 ≤ e) : overflowLimit ≤ top / bottom * 2 ^ e := by
  have divisor : (0 : ℚ) < bottom := by exact_mod_cast positive
  calc overflowLimit ≤ 2 ^ (52 + 972 : Int) := overflowLimit_lt_two_pow.le
    _ = 2 ^ 52 * 2 ^ (972 : Int) := zpow_add₀ two_ne_zero _ _
    _ ≤ top / bottom * 2 ^ e := by
      gcongr
      · rw [le_div_iff₀ divisor]
        exact_mod_cast lower
      · norm_num

theorem quotient_lt_overflowLimit_iff (top : Nat) (positive : 0 < bottom) :
    (top / bottom * 2 ^ (971 : Int) : ℚ) < overflowLimit ↔
      divideHalfEven top bottom ≤ 2 ^ 53 - 1 := by
  have divisor : (0 : ℚ) < bottom := by exact_mod_cast positive
  have doubled : (2 : ℚ) ^ (971 : Int) = 2 * 2 ^ (970 : Int) := by
    rw [show (971 : Int) = 1 + 970 from rfl, zpow_add₀ two_ne_zero, zpow_one]
  have odd : 2 * top < (2 * (2 ^ 53 - 1) + 1) * bottom ↔
      (2 * top : ℚ) < (2 ^ 54 - 1) * bottom := by
    rw [← Nat.cast_lt (α := ℚ), Nat.cast_mul, Nat.cast_mul (2 * (2 ^ 53 - 1) + 1)]
    norm_num
  rw [divideHalfEven_le_iff positive (by decide), odd, doubled, overflowLimit_eq, ← mul_assoc,
    mul_lt_mul_iff_left₀ (by positivity), ← div_lt_iff₀ divisor, mul_div_assoc, mul_comm]

/-- Whatever is known of a quotient by a mantissa and its accuracy is rounded to infinity just
if the quotient is beyond the range. -/
theorem overflowsWith_roundWithAccuracy
    (divided : Divided (.ofMantissaAndAccuracy m accuracy) top bottom) (positive : 0 < bottom)
    (least : -1074 ≤ e + surplus m) (greatest : e ≤ 971) :
    OverflowsWith (.ofModel (.pack (roundWithAccuracy Format.binary64 .positive m e accuracy)))
      (top / bottom * 2 ^ e) := by
  have unit : 0 < bottom * 2 ^ surplus m := Nat.mul_pos positive (Nat.two_pow_pos _)
  have upper := lt_of_div_eq divided.eq_div positive
  obtain ⟨bound, finite, infinite⟩ := roundWithAccuracy_cases divided positive least
  generalize Float.ofModel _ = x at *
  have value : (top / bottom * 2 ^ e : ℚ) =
      top / (bottom * 2 ^ surplus m : Nat) * 2 ^ (e + surplus m) := by
    have divisor : (bottom : ℚ) ≠ 0 := by exact_mod_cast positive.ne'
    rw [zpow_add₀ two_ne_zero, zpow_natCast, Nat.cast_mul, Nat.cast_pow, Nat.cast_two]
    field_simp
  rw [value]
  rcases lt_trichotomy (e + surplus m) 971 with below | last | above
  · -- one carried bit does no harm
    have bounded := (carry bound).1
    exact .of_lt (finite (by omega)) (quotient_lt_overflowLimit unit upper (by omega))
  · have limit := quotient_lt_overflowLimit_iff top unit
    rw [last]
    generalize divideHalfEven top _ = rounded at *
    rcases Nat.lt_or_eq_of_le bound with short | full
    · rw [surplus_eq_zero short] at finite
      exact .of_lt (finite (by omega)) (limit.mpr (by omega))
    · have carried : surplus rounded = 1 := by
        rw [full]
        decide
      have beyond := mt limit.mp (by omega)
      exact .of_le (infinite (by omega) (by omega)) (not_lt.mp beyond)
  · have bits : 52 ≤ m.log2 := by
      unfold surplus at above
      omega
    have lower : 2 ^ 52 * (bottom * 2 ^ surplus m) ≤ top := by
      calc 2 ^ 52 * (bottom * 2 ^ surplus m) = 2 ^ 52 * 2 ^ surplus m * bottom := by ring
        _ ≤ m * bottom := Nat.mul_le_mul_right _ (surplus_bounds bits).1
        _ ≤ top := by
          rw [divided.eq_div]
          exact Nat.div_mul_le_self top bottom
    have nonzero : divideHalfEven top (bottom * 2 ^ surplus m) ≠ 0 := by
      have least := divideHalfEven_mono unit lower
      rw [divideHalfEven_mul _ unit] at least
      omega
    exact .of_le (infinite nonzero (by omega)) (overflowLimit_le_quotient unit lower (by omega))

end Rounding


/-! ## Products and quotients -/

section Operations

variable {m₁ m₂ : Nat} {e₁ e₂ : Int} (positive₁ : 0 < m₁) (positive₂ : 0 < m₂)

theorem overflowsWith_mul (least : -1074 ≤ e₁ + e₂) (greatest : e₁ + e₂ ≤ 971) :
    OverflowsWith (.ofModel (.pack (mul Format.binary64 (.finite .positive m₁ e₁ positive₁)
      (.finite .positive m₂ e₂ positive₂)))) (m₁ * 2 ^ e₁ * (m₂ * 2 ^ e₂)) := by
  have rounded := overflowsWith_roundWithAccuracy (Divided.ofExact (m₁ * m₂)) Nat.one_pos
    (e := e₁ + e₂) (by omega) greatest
  have value : (m₁ * 2 ^ e₁ * (m₂ * 2 ^ e₂) : ℚ) =
      (m₁ * m₂ : Nat) / (1 : Nat) * 2 ^ (e₁ + e₂) := by
    rw [Nat.cast_one, div_one, zpow_add₀ two_ne_zero]
    push_cast
    ring
  rw [value]
  exact rounded

theorem Divided.ofFraction (top : Nat) {bottom : Nat} (positive : 0 < bottom) :
    Divided (.ofMantissaAndAccuracy (top / bottom) (accuracyOfFraction (top % bottom) bottom))
      top bottom := by
  unfold accuracyOfFraction
  split
  next none => constructor <;> simp [ExtendedMantissa.ofMantissaAndAccuracy, none, positive.ne']
  next some =>
    rcases Nat.lt_trichotomy (2 * (top % bottom)) bottom with less | half | greater
    · rw [compare_lt_iff_lt.mpr less]
      constructor <;> simp [ExtendedMantissa.ofMantissaAndAccuracy] <;> omega
    · rw [compare_eq_iff_eq.mpr half]
      constructor <;> simp [ExtendedMantissa.ofMantissaAndAccuracy] <;> omega
    · rw [compare_gt_iff_gt.mpr greater]
      constructor <;> simp [ExtendedMantissa.ofMantissaAndAccuracy] <;> omega

theorem overflowsWith_div (least : -1074 ≤ e₁ - e₂) (greatest : e₁ - e₂ ≤ 971) :
    OverflowsWith (.ofModel (.pack (div Format.binary64 (.finite .positive m₁ e₁ positive₁)
      (.finite .positive m₂ e₂ positive₂)))) (m₁ * 2 ^ e₁ / (m₂ * 2 ^ e₂)) := by
  have target (t : Int) : -1074 ≤ Format.binary64.targetExponent t := le_max_right _ _
  change OverflowsWith (.ofModel (.pack (roundWithAccuracy _ _ _ _ _))) _
  have least' := target (totalExponent m₁ e₁ - totalExponent m₂ e₂)
  generalize Format.binary64.targetExponent _ = t at *
  obtain ⟨shift, moved⟩ := Int.eq_ofNat_of_zero_le (a := e₁ - e₂ - min (e₁ - e₂) t) (by omega)
  rw [moved, Int.toNat_natCast]
  have rounded := overflowsWith_roundWithAccuracy (Divided.ofFraction (m₁ <<< shift) positive₂)
    positive₂ (e := min (e₁ - e₂) t) (by omega) (by omega)
  have exponents : e₁ = shift + min (e₁ - e₂) t + e₂ := by omega
  generalize min (e₁ - e₂) t = least at *
  have value : (m₁ * 2 ^ e₁ / (m₂ * 2 ^ e₂) : ℚ) = (m₁ <<< shift : Nat) / m₂ * 2 ^ least := by
    have divisor : (m₂ : ℚ) ≠ 0 := by exact_mod_cast positive₂.ne'
    rw [Nat.shiftLeft_eq, exponents, zpow_add₀ two_ne_zero, zpow_add₀ two_ne_zero, zpow_natCast]
    push_cast
    field_simp
  rw [value]
  exact rounded

end Operations

/-! ## Decimals -/

theorem Holds.positive_cases {k : Int} (holds : Holds x q) (least : 1 ≤ q) (bound : q < 2 ^ k) :
    ∃ m e, ∃ positive : 0 < m,
      x.toModel.unpack = .finite .positive m e positive ∧ (m * 2 ^ e : ℚ) = q ∧
        -52 ≤ e ∧ e < k := by
  unfold Holds at holds
  generalize x.toModel.unpack = a at *
  cases holds with
  | zero => norm_num at least
  | @finite sign m e positive canonical =>
      cases sign with
      | negative =>
          have below : (0 : ℚ) < m * 2 ^ e := by positivity
          rw [negative_apply_mul] at least
          linarith
      | positive =>
          rw [positive_apply_mul] at least bound
          refine ⟨m, e, positive, rfl, rfl, canonical.least_of_one_le least, ?_⟩
          by_contra large
          have beyond : (2 ^ k : ℚ) ≤ m * 2 ^ e := by
            calc (2 ^ k : ℚ) ≤ 2 ^ e := zpow_le_zpow_right₀ one_le_two (not_lt.mp large)
              _ ≤ m * 2 ^ e := le_mul_of_one_le_left (by positivity) (by exact_mod_cast positive)
          exact absurd bound (not_lt.mpr beyond)

theorem powersOfTen_parts : ∀ k : Fin Float.exactlyRepresentablePowersOfTen.size,
    ∃ parts ∈ Dyadic.ofFloat? Float.exactlyRepresentablePowersOfTen[k],
      parts.negative = false ∧ -52 ≤ parts.exponent ∧
        parts.significand * 2 ^ (parts.exponent + 52).toNat = 10 ^ (k : Nat) * 2 ^ 52 := by
  decide +kernel

/-- The powers of ten that are doubles themselves. -/
theorem holds_powerOfTen {k : Nat} (small : k < Float.exactlyRepresentablePowersOfTen.size) :
    Holds Float.exactlyRepresentablePowersOfTen[k] (10 ^ k) := by
  obtain ⟨parts, apart, positive, least, scaled⟩ := powersOfTen_parts ⟨k, small⟩
  have value : parts.value = 10 ^ k := by
    obtain ⟨shift, moved⟩ := Int.eq_ofNat_of_zero_le (a := parts.exponent + 52) (by omega)
    rw [moved, Int.toNat_natCast] at scaled
    have exponent : parts.exponent = shift + -52 := by omega
    have scaled' : (parts.significand * 2 ^ shift : ℚ) = 10 ^ k * 2 ^ 52 := by
      exact_mod_cast scaled
    rw [Dyadic.value, positive, if_neg Bool.false_ne_true, exponent, zpow_add₀ two_ne_zero,
      zpow_natCast, ← mul_assoc, scaled', mul_assoc]
    norm_num
  rw [← value]
  exact holds_value apart

section Scientific

variable {m : Nat} {e : Int}

theorem overflowLimit_lt_decimal (nonzero : m ≠ 0) (great : 1024 ≤ e) :
    overflowLimit < m * 10 ^ e := by
  have one : (1 : ℚ) ≤ m := by exact_mod_cast Nat.one_le_iff_ne_zero.mpr nonzero
  calc overflowLimit < 2 ^ (1024 : Int) := overflowLimit_lt_two_pow
    _ ≤ 2 ^ e := zpow_le_zpow_right₀ one_le_two great
    _ ≤ 10 ^ e := zpow_le_zpow_left₀ (by omega) two_pos.le (by norm_num)
    _ ≤ m * 10 ^ e := le_mul_of_one_le_left (by positivity) one

theorem decimal_lt_overflowLimit (tiny : e < -m.log2) : (m * 10 ^ e : ℚ) < overflowLimit := by
  obtain ⟨n, rfl⟩ : ∃ n : Nat, e = -n := ⟨e.natAbs, by omega⟩
  refine lt_overflowLimit (k := 0) ?_ (by decide)
  have bits : m ≤ 2 ^ n :=
    Nat.lt_log2_self.le.trans (Nat.pow_le_pow_right Nat.two_pos (by omega))
  have bound : (m : ℚ) ≤ 10 ^ n := by
    calc (m : ℚ) ≤ 2 ^ n := by exact_mod_cast bits
      _ ≤ 10 ^ n := pow_le_pow_left₀ two_pos.le (by norm_num) n
  rw [zpow_neg, zpow_natCast, ← div_eq_mul_inv, zpow_zero]
  exact div_le_one_of_le₀ bound (by positivity)

/-- Beyond the limits on exponents nothing is computed. -/
theorem overflowsWith_pack_ofScientific (nonzero : m ≠ 0) (e : Int) :
    OverflowsWith (.ofModel (.pack (UnpackedFloat.ofScientific Format.binary64 m e)))
      (m * 10 ^ e) := by
  rw [UnpackedFloat.ofScientific, dif_neg nonzero]
  split
  next great =>
    change (2048 : Int) < e at great
    exact .of_le rfl (overflowLimit_lt_decimal nonzero (by omega)).le
  next =>
    split
    next tiny =>
      change e < -((2048 : Int) + m.log2) at tiny
      exact .of_lt rfl (decimal_lt_overflowLimit (by omega))
    next =>
      split
      next whole =>
        obtain ⟨n, rfl⟩ := Int.eq_ofNat_of_zero_le whole
        have shifted : 0 < m <<< 53 := by
          rw [Nat.shiftLeft_eq]
          exact Nat.mul_pos (Nat.pos_of_ne_zero nonzero) (Nat.two_pow_pos 53)
        have rounded := overflowsWith_mul shifted (Nat.pow_pos (n := n) (show 0 < 10 by decide))
          (show -1074 ≤ -53 + (0 : Int) by decide) (by decide)
        have value : (m * 10 ^ (n : Int) : ℚ) =
            (m <<< 53 : Nat) * 2 ^ (-53 : Int) * ((10 ^ n : Nat) * 2 ^ (0 : Int)) := by
          rw [Nat.shiftLeft_eq]
          push_cast
          rw [zpow_natCast]
          norm_num [mul_assoc]
        rw [value]
        exact rounded
      next fraction =>
        have rounded := overflowsWith_div (Nat.pos_of_ne_zero nonzero)
          (Nat.pow_pos (n := (-e).toNat) (show 0 < 10 by decide))
          (show -1074 ≤ 0 - (0 : Int) by decide) (by decide)
        have value : (m * 10 ^ e : ℚ) =
            m * 2 ^ (0 : Int) / ((10 ^ (-e).toNat : Nat) * 2 ^ (0 : Int)) := by
          have exponent : e = -((-e).toNat : Int) := by omega
          rw [zpow_zero, mul_one, mul_one, Nat.cast_pow]
          nth_rewrite 1 [exponent]
          rw [zpow_neg, zpow_natCast, ← div_eq_mul_inv]
          rfl
        rw [value]
        exact rounded

/-- Of few digits and a small power of ten both are doubles, and their product or quotient is
rounded. -/
theorem overflowsWith_ofScientific_of_lt {k : Nat} (nonzero : m ≠ 0) (few : m < 2 ^ 53)
    (small : k < Float.exactlyRepresentablePowersOfTen.size) :
    OverflowsWith (m.toUInt64.toFloat * Float.exactlyRepresentablePowersOfTen[k]) (m * 10 ^ k) ∧
      OverflowsWith (m.toUInt64.toFloat / Float.exactlyRepresentablePowersOfTen[k])
          (m / 10 ^ k) := by
  have left := holds_toFloat m.toUInt64
  rw [show m.toUInt64.toNat = m from Nat.mod_eq_of_lt (few.trans (by decide)),
    nearestNat_of_lt few] at left
  have right := holds_powerOfTen small
  have one : (1 : ℚ) ≤ m := by exact_mod_cast Nat.one_le_iff_ne_zero.mpr nonzero
  have bound : (m : ℚ) < 2 ^ (53 : Int) := by exact_mod_cast few
  have bound' : (10 ^ k : ℚ) < 2 ^ (74 : Int) := by
    have limit : k ≤ 22 := Nat.le_of_lt_succ small
    calc (10 ^ k : ℚ) ≤ 10 ^ 22 := pow_le_pow_right₀ (by norm_num) limit
      _ < 2 ^ (74 : Int) := by norm_num
  obtain ⟨m₁, e₁, positive₁, unpacked₁, value₁, least₁, most₁⟩ := left.positive_cases one bound
  obtain ⟨m₂, e₂, positive₂, unpacked₂, value₂, least₂, most₂⟩ :=
    right.positive_cases (one_le_pow₀ (by norm_num)) bound'
  rw [← value₁, ← value₂]
  constructor
  · change OverflowsWith (.ofModel (.pack (mul Format.binary64 _ _))) _
    rw [unpacked₁, unpacked₂]
    exact overflowsWith_mul positive₁ positive₂ (by omega) (by omega)
  · change OverflowsWith (.ofModel (.pack (div Format.binary64 _ _))) _
    rw [unpacked₁, unpacked₂]
    exact overflowsWith_div positive₁ positive₂ (by omega) (by omega)

/-- A decimal is rounded to a finite double just if it is below the limit. -/
theorem overflowsWith_ofScientific (nonzero : m ≠ 0) (negative : Bool) (k : Nat) :
    OverflowsWith (Float.ofScientific m negative k)
      (m * 10 ^ (if negative then -k else k : Int)) := by
  unfold Float.ofScientific
  split
  next short =>
    obtain ⟨product, quotient⟩ := overflowsWith_ofScientific_of_lt nonzero short.1
      (Nat.lt_succ_of_le short.2)
    cases negative with
    | false => exact product
    | true =>
        change OverflowsWith _ (m * 10 ^ (-k : Int))
        rw [zpow_neg]
        exact quotient
  next =>
    have rounded := overflowsWith_pack_ofScientific nonzero (if negative then -k else k : Int)
    cases negative with
    | false => exact rounded
    | true =>
        dsimp only
        rw [if_pos rfl, Int.negOfNat_eq]
        exact rounded

end Scientific

end Real64

end Assessment
