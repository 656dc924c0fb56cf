import Assessment.Proofs.DoubleValue
import Assessment.Proofs.NearestDouble

/-!
# How doubles are rounded

The results of arithmetic are rounded by dropping bits from the right.  Of the bits that are
dropped two summaries are kept, and they suffice to find the nearest number, the even one of
two.  Since rounding may carry into a further bit, the bits are dropped in two passes.
-/

namespace Assessment.Real64

open Float.Model UnpackedFloat

/-! ## Dropped bits -/

/-- The extended mantissa is the quotient of two natural numbers, with the two bits that
tell its rest from zero and from one half of the divisor. -/
structure Divided (em : ExtendedMantissa) (top bottom : Nat) : Prop where
  mantissa : em.mantissa = top / bottom
  roundBit : em.roundBit = decide (bottom ≤ 2 * (top % bottom))
  stickyBit : em.stickyBit = decide (top % bottom ≠ 0 ∧ 2 * (top % bottom) ≠ bottom)

namespace Divided

variable {em : ExtendedMantissa} {top bottom : Nat}

theorem ofExact (m : Nat) : Divided (.ofMantissaAndAccuracy m .exact) m 1 := by
  constructor <;> simp [ExtendedMantissa.ofMantissaAndAccuracy, Nat.mod_one]

/-- One more bit that is dropped doubles the divisor. -/
theorem shiftRightOne (divided : Divided em top bottom) (positive : 0 < bottom) :
    Divided em.shiftRightOne top (bottom * 2) := by
  have rest := Nat.mod_lt top positive
  have below : top / bottom % 2 < 2 := Nat.mod_lt _ Nat.two_pos
  have doubled : top % (bottom * 2) = top % bottom + bottom * (top / bottom % 2) := Nat.mod_mul
  constructor
  · change em.mantissa / 2 = _
    rw [divided.mantissa, Nat.div_div_eq_div_mul]
  · change (em.mantissa % 2 != 0) = _
    rw [divided.mantissa, doubled]
    obtain even | odd : top / bottom % 2 = 0 ∨ top / bottom % 2 = 1 := by omega
    · rw [even]
      simp
      omega
    · rw [odd]
      simp
      omega
  · change (em.roundBit || em.stickyBit) = _
    rw [divided.roundBit, divided.stickyBit, doubled, ← Bool.decide_or]
    obtain even | odd : top / bottom % 2 = 0 ∨ top / bottom % 2 = 1 := by omega
    · rw [even, Nat.mul_zero]
      exact decide_eq_decide.mpr (by omega)
    · rw [odd, Nat.mul_one]
      exact decide_eq_decide.mpr (by omega)

theorem shiftRight (divided : Divided em top bottom) (positive : 0 < bottom) (k : Nat) :
    Divided (em >>> k) top (bottom * 2 ^ k) := by
  change Divided (k.repeat ExtendedMantissa.shiftRightOne em) _ _
  induction k with
  | zero =>
      rwa [Nat.repeat, Nat.pow_zero, Nat.mul_one]
  | succ k induction =>
      rw [Nat.repeat, Nat.pow_succ, ← Nat.mul_assoc]
      exact induction.shiftRightOne (Nat.mul_pos positive (Nat.two_pow_pos k))

/-- The two bits decide the rounding of the quotient. -/
theorem roundedMantissa (divided : Divided em top bottom) (positive : 0 < bottom) :
    em.roundedMantissa = divideHalfEven top bottom := by
  obtain ⟨mantissa, roundBit, stickyBit⟩ := em
  obtain ⟨quotient, round, sticky⟩ := divided
  dsimp only at quotient round sticky
  subst quotient round sticky
  have rest := Nat.mod_lt top positive
  unfold divideHalfEven ExtendedMantissa.roundedMantissa
  dsimp only
  rcases Nat.lt_trichotomy (2 * (top % bottom)) bottom with less | half | greater
  · rw [if_pos less, decide_eq_false (by omega)]
    cases decide (top % bottom ≠ 0 ∧ 2 * (top % bottom) ≠ bottom) <;> rfl
  · rw [decide_eq_true (by omega), decide_eq_false (by omega), if_neg (by omega),
      if_neg (by omega)]
    change top / bottom + top / bottom % 2 = _
    rcases Nat.mod_two_eq_zero_or_one (top / bottom) with even | odd
    · rw [even]
      rfl
    · rw [odd]
      rfl
  · rw [decide_eq_true (by omega), decide_eq_true (by omega), if_neg (by omega),
      if_pos greater]
    rfl

end Divided

/-! ## Rounding to fifty-three bits -/

section Rounding

variable {m top bottom : Nat} {e : Int} {accuracy : Accuracy}

/-- A number is shifted by the bits beyond the fifty-third. -/
theorem shiftToTargetExponent_eq (divided : Divided (.ofMantissaAndAccuracy m accuracy) top bottom)
    (positive : 0 < bottom) (least : -1074 ≤ e + surplus m) :
    ∃ em, shiftToTargetExponent Format.binary64 m e accuracy = (em, e + surplus m) ∧
      Divided em top (bottom * 2 ^ surplus m) := by
  have amount : (Format.binary64.targetExponent (totalExponent m e) - e).toNat = surplus m := by
    change (max ((m.log2 : Int) + 1 + e - 53) (-1074) - e).toNat = m.log2 - 52
    unfold surplus at least
    omega
  refine ⟨_, ?_, divided.shiftRight positive (surplus m)⟩
  rw [shiftToTargetExponent, shiftToExponent, amount]

/-- The second pass drops what the rounding has carried into a further bit. -/
theorem roundWithAccuracy_eq (sign : Sign)
    (divided : Divided (.ofMantissaAndAccuracy m accuracy) top bottom) (positive : 0 < bottom)
    (least : -1074 ≤ e + surplus m) :
    let rounded := divideHalfEven top (bottom * 2 ^ surplus m)
    let significand := rounded / 2 ^ surplus rounded
    roundWithAccuracy Format.binary64 sign m e accuracy =
      if zero : significand = 0 then .zero sign
      else .finite sign significand (e + surplus m + surplus rounded)
        (Nat.pos_of_ne_zero zero) := by
  intro rounded significand
  obtain ⟨em, shifted, first⟩ := shiftToTargetExponent_eq divided positive least
  have halves : em.roundedMantissa = rounded :=
    first.roundedMantissa (Nat.mul_pos positive (Nat.two_pow_pos _))
  obtain ⟨em', shifted', second⟩ := shiftToTargetExponent_eq (e := e + surplus m)
    (Divided.ofExact rounded) Nat.one_pos (by omega)
  have last : em'.mantissa = significand := by rw [second.mantissa, Nat.one_mul]
  unfold roundWithAccuracy
  rw [shifted]
  dsimp only
  rw [halves, shifted']
  dsimp only
  simp only [last]

theorem shifted_bounds (bits : 52 ≤ m.log2) :
    2 ^ 52 ≤ m / 2 ^ surplus m ∧ m / 2 ^ surplus m < 2 ^ 53 := by
  obtain ⟨lower, upper⟩ := surplus_bounds bits
  exact ⟨(Nat.le_div_iff_mul_le (Nat.two_pow_pos _)).mpr lower,
    (Nat.div_lt_iff_lt_mul (Nat.two_pow_pos _)).mpr upper⟩

/-- Rounding may carry into a fifty-fourth bit, and then the last bit is zero. -/
theorem carry (small : m ≤ 2 ^ 53) :
    surplus m ≤ 1 ∧ m / 2 ^ surplus m * 2 ^ surplus m = m := by
  have bits : m.log2 < 54 := by
    rcases Nat.eq_zero_or_pos m with rfl | positive
    · decide
    · exact (Nat.log2_lt positive.ne').mpr (by omega)
  refine ⟨by unfold surplus; omega, Nat.div_mul_cancel ?_⟩
  exact nearestNat_eq_self_iff.mp (nearestNat_of_short (short_of_le small))

/-- A number with as many bits is rounded to the nearest short one. -/
theorem roundWithAccuracy_denotes (sign : Sign) (bits : 52 ≤ m.log2)
    (least : -1074 ≤ e + surplus m) (greatest : e + surplus m ≤ 970) :
    Denotes (roundWithAccuracy Format.binary64 sign m e .exact)
      (sign.apply (nearestNat m) * 2 ^ e) := by
  have result := roundWithAccuracy_eq sign (Divided.ofExact m) Nat.one_pos least
  obtain ⟨lower, upper⟩ := significand_bounds bits
  rw [Nat.one_mul] at result
  unfold nearestNat
  generalize divideHalfEven m (2 ^ surplus m) = rounded at *
  dsimp only at result
  have bits' : 52 ≤ rounded.log2 := (Nat.le_log2 (by omega)).mpr lower
  obtain ⟨oneBit, restored⟩ := carry upper
  obtain ⟨lower', upper'⟩ := shifted_bounds bits'
  generalize rounded / 2 ^ surplus rounded = significand at *
  have positive : 0 < significand := by omega
  have canonical : Canonical significand (e + surplus m + surplus rounded) :=
    ⟨upper', by omega, by omega, .inl lower'⟩
  have carried := apply_mul_two_pow sign significand (surplus rounded) (e + surplus m)
  rw [restored] at carried
  rw [result, dif_neg positive.ne', apply_mul_two_pow, carried]
  exact .finite sign positive canonical

/-- A number of any size is first given as many bits. -/
theorem round_denotes (sign : Sign) (nonzero : m ≠ 0) (least : -1022 ≤ e + m.log2)
    (greatest : e + m.log2 ≤ 1022) :
    Denotes (round Format.binary64 sign m e) (sign.apply (nearestNat m) * 2 ^ e) := by
  have target : Format.binary64.targetExponent (totalExponent m e) = e + m.log2 - 52 := by
    change max ((m.log2 : Int) + 1 + e - 53) (-1074) = _
    omega
  have zeros : (e - (e + m.log2 - 52)).toNat = 52 - m.log2 := by omega
  unfold UnpackedFloat.round decreaseExponent
  dsimp only
  rw [target, zeros, Nat.shiftLeft_eq]
  have bits := log2_mul_two_pow nonzero (52 - m.log2)
  have dropped : (surplus (m * 2 ^ (52 - m.log2)) : Int) = m.log2 + (52 - m.log2 : Nat) - 52 := by
    unfold surplus
    omega
  have rounded := roundWithAccuracy_denotes (m := m * 2 ^ (52 - m.log2))
    (e := e - (52 - m.log2 : Nat)) sign (by omega) (by omega) (by omega)
  rwa [nearestNat_mul_two_pow, apply_mul_two_pow, Int.sub_add_cancel] at rounded

theorem normalize_denotes {n : Int} (zeroSign : Sign) (least : -1022 ≤ e)
    (greatest : e + n.natAbs.log2 ≤ 1022) :
    Denotes (UnpackedFloat.normalize Format.binary64 n e zeroSign) (nearest n * 2 ^ e) := by
  unfold UnpackedFloat.normalize
  rcases Int.lt_trichotomy n 0 with negative | rfl | positive
  · obtain ⟨m, rfl⟩ : ∃ m : Nat, n = -m := ⟨n.natAbs, by omega⟩
    rw [Int.natAbs_neg, Int.natAbs_natCast] at greatest
    rw [compare_lt_iff_lt.mpr negative, Int.neg_neg, Int.toNat_natCast, nearest_neg,
      nearest_natCast]
    exact round_denotes .negative (by omega) (by omega) greatest
  · rw [compare_eq_iff_eq.mpr rfl, show nearest 0 = 0 from rfl, Int.cast_zero, zero_mul]
    exact .zero zeroSign
  · obtain ⟨m, rfl⟩ : ∃ m : Nat, n = m := ⟨n.natAbs, by omega⟩
    rw [Int.natAbs_natCast] at greatest
    rw [compare_gt_iff_gt.mpr positive, Int.toNat_natCast, nearest_natCast]
    exact round_denotes .positive (by omega) (by omega) greatest

end Rounding

end Assessment.Real64
