import Assessment.Proofs.DoubleValue

/-!
# Doubles taken apart

The parts that are read off the bits of a double make up its number, so the integral part,
the floor and the ceiling that are computed from them are those of the number.
-/

namespace Assessment

namespace Real64

open Float.Model UnpackedFloat

variable {x : Float} {q : ℚ}

/-! ## The fields of the bits -/

/-- The sign of a double, that of a zero too. -/
def signOf (x : Float) : Sign :=
  .ofBitVec (@unpackSign Format.binary64 x.toBits.toBitVec)

theorem signOf_apply (x : Float) (m : Nat) :
    ((signOf x).apply m : ℚ) = if bits x / 2 ^ 63 == 1 then -(m : ℚ) else m := by
  have field : (@unpackSign Format.binary64 x.toBits.toBitVec).toNat = bits x / 2 ^ 63 := by
    have range : bits x < 2 ^ 64 := UInt64.toNat_lt _
    simp [unpackSign, ← bits.eq_1, Nat.shiftRight_eq_div_pow]
    omega
  unfold signOf
  generalize @unpackSign Format.binary64 x.toBits.toBitVec = sign at *
  rw [← field]
  obtain rfl | rfl := BitVec.eq_zero_or_eq_one sign
  · rfl
  · exact Int.cast_neg _

theorem exponentBits_eq_iff {v : Nat} (small : v < 2 ^ 11) :
    exponentBits x = BitVec.ofNat 11 v ↔ bits x / 2 ^ 52 % 2 ^ 11 = v := by
  rw [← BitVec.toNat_inj, toNat_exponentBits, BitVec.toNat_ofNat, Nat.mod_eq_of_lt small]

theorem mantissaBits_eq_zero_iff :
    mantissaBits x = 0#52 ↔ bits x % 2 ^ 52 = 0 := by
  rw [← BitVec.toNat_inj, toNat_mantissaBits]
  rfl

theorem finite_congr {sign : Sign} {m m' : Nat} {e e' : Int} {positive : 0 < m}
    {positive' : 0 < m'} (significands : m = m') (exponents : e = e') :
    UnpackedFloat.finite sign m e positive = .finite sign m' e' positive' := by
  subst significands exponents
  rfl

theorem unpack_zero (least : bits x / 2 ^ 52 % 2 ^ 11 = 0) (zero : bits x % 2 ^ 52 = 0) :
    x.toModel.unpack = .zero (signOf x) := by
  have noneSet := (exponentBits_eq_iff (v := 0) (by decide)).mpr least
  have notAllSet : exponentBits x ≠ -1#11 := by
    rw [noneSet]
    decide
  have mantissa : mantissaBits x = 0#52 := mantissaBits_eq_zero_iff.mpr zero
  exact (if_neg notAllSet).trans ((if_pos noneSet).trans (dif_pos mantissa))

theorem unpack_subnormal (least : bits x / 2 ^ 52 % 2 ^ 11 = 0) (positive : 0 < bits x % 2 ^ 52) :
    x.toModel.unpack = .finite (signOf x) (bits x % 2 ^ 52) (-1074) positive := by
  have noneSet := (exponentBits_eq_iff (v := 0) (by decide)).mpr least
  have notAllSet : exponentBits x ≠ -1#11 := by
    rw [noneSet]
    decide
  have mantissa : mantissaBits x ≠ 0#52 := mt mantissaBits_eq_zero_iff.mp positive.ne'
  refine (if_neg notAllSet).trans ((if_pos noneSet).trans ((dif_neg mantissa).trans ?_))
  refine finite_congr (toNat_mantissaBits x) ?_
  change ((exponentBits x).toNat : Int) - 1075 + 1 = _
  rw [noneSet]
  rfl

theorem unpack_normal (finite : bits x / 2 ^ 52 % 2 ^ 11 ≠ 2047)
    (normal : bits x / 2 ^ 52 % 2 ^ 11 ≠ 0) :
    x.toModel.unpack = .finite (signOf x) (bits x % 2 ^ 52 + 2 ^ 52)
      ((bits x / 2 ^ 52 % 2 ^ 11 : Nat) - 1075) (Nat.add_pos_right _ (Nat.two_pow_pos 52)) := by
  have notAllSet : exponentBits x ≠ -1#11 := mt (exponentBits_eq_iff (by decide)).mp finite
  have notNoneSet : exponentBits x ≠ 0#11 := mt (exponentBits_eq_iff (by decide)).mp normal
  refine (if_neg notAllSet).trans ((if_neg notNoneSet).trans ?_)
  refine finite_congr ?_ ?_
  · change (1#1 ++ mantissaBits x).toNat = _
    rw [BitVec.toNat_append, ← Nat.shiftLeft_add_eq_or_of_lt (BitVec.isLt _),
      toNat_mantissaBits, Nat.add_comm]
    rfl
  · change ((exponentBits x).toNat : Int) - 1075 = _
    rw [toNat_exponentBits]

theorem not_finite (allSet : bits x / 2 ^ 52 % 2 ^ 11 = 2047) : x.isFinite = false := by
  have exponent : exponentBits x = -1#11 := (exponentBits_eq_iff (by decide)).mpr allSet
  have unpacked : x.toModel.unpack = _ := if_pos exponent
  refine (congrArg UnpackedFloat.isFinite unpacked).trans ?_
  split <;> rfl

theorem Holds.isFinite (holds : Holds x q) : x.isFinite = true := by
  change x.toModel.unpack.isFinite = true
  unfold Holds at holds
  generalize x.toModel.unpack = a at *
  cases holds <;> rfl

/-- Every finite double stands for a number. -/
theorem exists_holds (finite : x.isFinite = true) : ∃ q, Holds x q := by
  have notAllSet : bits x / 2 ^ 52 % 2 ^ 11 ≠ 2047 := by
    intro allSet
    rw [not_finite allSet] at finite
    cases finite
  have short : bits x % 2 ^ 52 < 2 ^ 52 := Nat.mod_lt _ (Nat.two_pow_pos 52)
  have biased : bits x / 2 ^ 52 % 2 ^ 11 < 2 ^ 11 := Nat.mod_lt _ (Nat.two_pow_pos 11)
  unfold Holds
  by_cases least : bits x / 2 ^ 52 % 2 ^ 11 = 0
  · rcases Nat.eq_zero_or_pos (bits x % 2 ^ 52) with zero | positive
    · rw [unpack_zero least zero]
      exact ⟨_, .zero _⟩
    · rw [unpack_subnormal least positive]
      exact ⟨_, .finite _ positive ⟨by omega, by decide, by decide, .inr rfl⟩⟩
  · rw [unpack_normal notAllSet least]
    exact ⟨_, .finite _ _ ⟨by omega, by omega, by omega, .inl (by omega)⟩⟩

theorem not_holds (allSet : bits x / 2 ^ 52 % 2 ^ 11 = 2047) : ¬Holds x q :=
  fun holds => Bool.false_ne_true ((not_finite allSet).symm.trans holds.isFinite)

end Real64

namespace Dyadic

open Real64

/-- The number. -/
def value (x : Dyadic) : ℚ :=
  (if x.negative then -(x.significand : ℚ) else x.significand) * 2 ^ x.exponent

theorem ofFloat?_eq_ite (x : Float) :
    ofFloat? x =
      if bits x / 2 ^ 52 % 2 ^ 11 = 2047 then none
      else if bits x / 2 ^ 52 % 2 ^ 11 = 0 then
        some ⟨bits x / 2 ^ 63 == 1, bits x % 2 ^ 52, leastExponent⟩
      else
        some ⟨bits x / 2 ^ 63 == 1, bits x % 2 ^ 52 + 2 ^ 52,
          (bits x / 2 ^ 52 % 2 ^ 11 : Nat) - 1075⟩ := by
  unfold ofFloat?
  simp only [beq_iff_eq]
  rfl

theorem ofFloat?_eq_none {x : Float} (notFinite : x.isFinite = false) : ofFloat? x = none := by
  rw [ofFloat?_eq_ite, if_pos (allSet_of_not_finite notFinite)]

theorem value_of_signOf (x : Float) (m : Nat) (e : Int) :
    value ⟨bits x / 2 ^ 63 == 1, m, e⟩ = (signOf x).apply m * 2 ^ e := by
  rw [signOf_apply, value]

end Dyadic

namespace Real64

/-- The parts of a finite double make up its number. -/
theorem Holds.ofFloat? (holds : Holds x q) :
    ∃ parts, Dyadic.ofFloat? x = some parts ∧ parts.value = q := by
  by_cases infinite : bits x / 2 ^ 52 % 2 ^ 11 = 2047
  · exact absurd holds (not_holds infinite)
  rw [Dyadic.ofFloat?_eq_ite, if_neg infinite]
  unfold Holds at holds
  by_cases least : bits x / 2 ^ 52 % 2 ^ 11 = 0
  · rw [if_pos least]
    refine ⟨_, rfl, (Dyadic.value_of_signOf x _ _).trans ?_⟩
    rcases Nat.eq_zero_or_pos (bits x % 2 ^ 52) with zero | positive
    · rw [unpack_zero least zero] at holds
      cases holds
      rw [signOf_apply, zero]
      simp
    · rw [unpack_subnormal least positive] at holds
      cases holds
      rfl
  · rw [if_neg least]
    refine ⟨_, rfl, (Dyadic.value_of_signOf x _ _).trans ?_⟩
    rw [unpack_normal infinite least] at holds
    cases holds
    rfl

/-- Only a finite double has parts, and they make up its number. -/
theorem holds_value {parts : Dyadic} (apart : Dyadic.ofFloat? x = some parts) :
    Holds x parts.value := by
  cases finite : x.isFinite with
  | false =>
      rw [Dyadic.ofFloat?_eq_none finite] at apart
      cases apart
  | true =>
      obtain ⟨q, holds⟩ := exists_holds finite
      obtain ⟨parts', apart', rfl⟩ := holds.ofFloat?
      rw [apart, Option.some_inj] at apart'
      rwa [apart']

end Real64

namespace Dyadic

variable {x : Dyadic}

/-! ## Rounding to integers -/

theorem ratio_positive (x : Dyadic) : 0 < x.ratio.2 := by
  unfold ratio
  split
  · exact Nat.one_pos
  · exact Nat.two_pow_pos _

theorem value_eq_ratio (x : Dyadic) :
    x.value = (if x.negative then -(x.ratio.1 / x.ratio.2 : ℚ) else x.ratio.1 / x.ratio.2) := by
  have magnitude : (x.significand * 2 ^ x.exponent : ℚ) = x.ratio.1 / x.ratio.2 := by
    unfold ratio
    split
    next whole =>
      obtain ⟨k, exponent⟩ := Int.eq_ofNat_of_zero_le whole
      rw [exponent]
      simp
    next fractional =>
      obtain ⟨k, exponent⟩ := Int.eq_ofNat_of_zero_le (a := -x.exponent) (by omega)
      rw [← neg_neg x.exponent, exponent]
      simp [div_eq_mul_inv]
  rw [value, ← magnitude]
  split
  · exact neg_mul _ _
  · rfl

theorem divideUp_eq_ceil (top : Nat) {bottom : Nat} (positive : 0 < bottom) :
    (((top + (bottom - 1)) / bottom : Nat) : Int) = ⌈(top / bottom : ℚ)⌉ := by
  have parts := Nat.div_add_mod (top + (bottom - 1)) bottom
  have rest := Nat.mod_lt (top + (bottom - 1)) positive
  generalize (top + (bottom - 1)) / bottom = quotient at *
  have upper : (top : ℚ) ≤ quotient * bottom := by
    have : top ≤ bottom * quotient := by omega
    exact_mod_cast this.trans_eq (Nat.mul_comm _ _)
  have lower : (quotient * bottom : ℚ) < top + bottom := by
    have : bottom * quotient < top + bottom := by omega
    exact_mod_cast (Nat.mul_comm _ _).trans_lt this
  have divisor : (0 : ℚ) < bottom := by exact_mod_cast positive
  symm
  rw [Int.ceil_eq_iff, Int.cast_natCast, div_le_iff₀ divisor, lt_div_iff₀ divisor]
  constructor <;> linarith

theorem floor_eq (x : Dyadic) : x.floor = ⌊x.value⌋ := by
  rw [value_eq_ratio, floor]
  dsimp only
  split
  · rw [divideUp_eq_ceil _ x.ratio_positive, Int.floor_neg]
  · rw [Rat.floor_natCast_div_natCast]
    rfl

theorem ceiling_eq (x : Dyadic) : x.ceiling = ⌈x.value⌉ := by
  rw [value_eq_ratio, ceiling]
  dsimp only
  split
  · rw [Int.ceil_neg, Rat.floor_natCast_div_natCast]
    rfl
  · exact divideUp_eq_ceil _ x.ratio_positive

/-- The integral part lies on the side of zero. -/
theorem truncate_eq (x : Dyadic) :
    x.truncate = if 0 ≤ x.value then ⌊x.value⌋ else ⌈x.value⌉ := by
  have whole : ((x.ratio.1 / x.ratio.2 : Nat) : Int) = ⌊(x.ratio.1 / x.ratio.2 : ℚ)⌋ :=
    (Rat.floor_natCast_div_natCast _ _).symm
  have nonneg : (0 : ℚ) ≤ x.ratio.1 / x.ratio.2 := by positivity
  rw [value_eq_ratio, truncate]
  dsimp only
  rw [whole]
  generalize (x.ratio.1 / x.ratio.2 : ℚ) = magnitude at *
  cases x.negative with
  | false => exact (if_pos nonneg).symm
  | true =>
      change -⌊magnitude⌋ = if 0 ≤ -magnitude then ⌊-magnitude⌋ else ⌈-magnitude⌉
      rw [Int.ceil_neg]
      rcases nonneg.eq_or_lt with rfl | positive
      · simp
      · rw [if_neg (not_le.mpr (neg_neg_of_pos positive))]

end Dyadic

end Assessment
