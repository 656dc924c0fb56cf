import Assessment.Proofs.Double
import Mathlib

/-!
# The numbers of doubles

A finite double stands for a rational number: its significand times a power of two, with
its sign.  Packing the parts into bits and unpacking them again loses nothing, and finite
doubles are compared as their numbers are.
-/

namespace Assessment.Real64

open Float.Model UnpackedFloat

/-! ## Packing -/

/-- The significand and the exponent of a finite double in the form that doubles are
unpacked to: the significand has fifty-three bits, unless the exponent is the least one. -/
structure Canonical (m : Nat) (e : Int) : Prop where
  short : m < 2 ^ 53
  least : -1074 ≤ e
  greatest : e ≤ 971
  full : 2 ^ 52 ≤ m ∨ e = -1074

variable {m : Nat} {e : Int}

theorem Canonical.pack_normal (canonical : Canonical m e) (sign : Sign) (positive : 0 < m)
    (normal : 2 ^ 52 ≤ m) :
    pack Format.binary64 (.finite sign m e positive) =
        packComponents Format.binary64 sign (BitVec.ofNat 11 (e + 1075).toNat)
          (BitVec.ofNat 52 m) := by
  have bits : m.log2 = 52 := (Nat.log2_eq_iff positive.ne').mpr ⟨normal, canonical.short⟩
  have biased : (e + Format.binary64.exponentBias + (52 : Nat)).toNat = (e + 1075).toNat :=
    congrArg Int.toNat (Int.add_assoc e 1023 52)
  have inRange : ¬2 ^ 11 ≤ (e + 1075).toNat + 1 := by
    have := canonical.greatest
    omega
  unfold UnpackedFloat.pack
  dsimp only
  rw [biased, if_neg inRange, bits]
  rfl

theorem Canonical.pack_subnormal (canonical : Canonical m e) (sign : Sign) (positive : 0 < m)
    (subnormal : m < 2 ^ 52) :
    pack Format.binary64 (.finite sign m e positive) =
        packComponents Format.binary64 sign 0#11 (BitVec.ofNat 52 m) := by
  have bits : m.log2 + 1 ≠ Format.binary64.mantissaBits := by
    have := (Nat.log2_lt positive.ne').mpr subnormal
    simp [Format.mantissaBits]
    omega
  obtain rfl : e = -1074 := canonical.full.resolve_left (by omega)
  exact if_neg bits

theorem Canonical.unpack_pack_normal (canonical : Canonical m e) (sign : Sign)
    (positive : 0 < m) (normal : 2 ^ 52 ≤ m) :
    unpack Format.binary64 (pack Format.binary64 (.finite sign m e positive)) =
      .finite sign m e positive := by
  have least := canonical.least
  have greatest := canonical.greatest
  have short := canonical.short
  have exponent : (BitVec.ofNat 11 (e + 1075).toNat).toNat = (e + 1075).toNat := by
    rw [BitVec.toNat_ofNat]
    omega
  have notAll : BitVec.ofNat 11 (e + 1075).toNat ≠ -1#11 := by
    intro all
    have : (e + 1075).toNat = 2047 := exponent.symm.trans (congrArg BitVec.toNat all)
    omega
  have notNone : BitVec.ofNat 11 (e + 1075).toNat ≠ 0#11 := by
    intro none
    have : (e + 1075).toNat = 0 := exponent.symm.trans (congrArg BitVec.toNat none)
    omega
  have significand : (1#1 ++ BitVec.ofNat 52 m).toNat = m := by
    rw [BitVec.toNat_append, ← Nat.shiftLeft_add_eq_or_of_lt (BitVec.isLt _),
      BitVec.toNat_ofNat, BitVec.toNat_ofNat]
    omega
  rw [canonical.pack_normal sign positive normal]
  simp only [UnpackedFloat.unpack, unpackExponent_packComponents, unpackMantissa_packComponents,
    unpackSign_packComponents, Sign.ofBitVec_toBitVec, if_neg notAll, if_neg notNone]
  congr 1
  rw [exponent, Int.toNat_of_nonneg (by omega)]
  exact Int.add_sub_cancel e 1075

theorem Canonical.unpack_pack_subnormal (canonical : Canonical m e) (sign : Sign)
    (positive : 0 < m) (subnormal : m < 2 ^ 52) :
    unpack Format.binary64 (pack Format.binary64 (.finite sign m e positive)) =
      .finite sign m e positive := by
  obtain rfl : e = -1074 := canonical.full.resolve_left (by omega)
  have significand : (BitVec.ofNat 52 m).toNat = m := by
    rw [BitVec.toNat_ofNat]
    omega
  have nonzero : BitVec.ofNat 52 m ≠ 0#52 := by
    intro zero
    have : m = 0 := significand.symm.trans (congrArg BitVec.toNat zero)
    omega
  rw [canonical.pack_subnormal sign positive subnormal]
  simp only [UnpackedFloat.unpack, unpackExponent_packComponents, unpackMantissa_packComponents,
    unpackSign_packComponents, Sign.ofBitVec_toBitVec]
  rw [if_neg (by decide), if_pos trivial, dif_neg nonzero]
  congr 1

/-! ## The number that a double stands for -/

/-- The finite doubles and their numbers. -/
inductive Denotes : UnpackedFloat → ℚ → Prop where
  | zero (sign : Sign) : Denotes (.zero sign) 0
  | finite (sign : Sign) {m : Nat} {e : Int} (positive : 0 < m) (canonical : Canonical m e) :
      Denotes (.finite sign m e positive) (sign.apply m * 2 ^ e)

/-- The double stands for the number. -/
def Holds (x : Float) (q : ℚ) : Prop :=
  Denotes x.toModel.unpack q

variable {x y : Float} {p q : ℚ} {a b : UnpackedFloat}

theorem Denotes.unpack_pack (denotes : Denotes a q) : (Float.Model.pack a).unpack = a := by
  cases denotes with
  | zero sign => exact unpack_packedZero
  | finite sign positive canonical =>
      rcases Nat.lt_or_ge _ (2 ^ 52) with subnormal | normal
      · exact canonical.unpack_pack_subnormal sign positive subnormal
      · exact canonical.unpack_pack_normal sign positive normal

theorem Denotes.holds (denotes : Denotes a q) : Holds (.ofModel (.pack a)) q := by
  unfold Holds
  rwa [denotes.unpack_pack]

/-! ## Signs -/

theorem natAbs_apply (sign : Sign) (m : Nat) : (sign.apply m).natAbs = m := by
  cases sign
  · exact Int.natAbs_neg m
  · rfl

theorem apply_neg (sign : Sign) (m : Nat) : ((-sign).apply m : ℚ) = -sign.apply m := by
  cases sign
  · change ((m : Int) : ℚ) = -((-m : Int) : ℚ)
    rw [Int.cast_neg, neg_neg]
  · exact Int.cast_neg _

theorem apply_mul (sign : Sign) (m k : Nat) :
    ((sign.apply (m * k : Nat) : Int) : ℚ) = sign.apply m * k := by
  cases sign
  · simp [Sign.apply]
  · simp [Sign.apply]

/-- Zeros at the end of a significand count in its exponent. -/
theorem apply_mul_two_pow (sign : Sign) (m k : Nat) (e : Int) :
    (sign.apply (m * 2 ^ k : Nat) * 2 ^ e : ℚ) = sign.apply m * 2 ^ (e + k) := by
  rw [apply_mul, Nat.cast_pow, Nat.cast_two, zpow_add₀ two_ne_zero, zpow_natCast]
  ring

theorem positive_apply_mul (m : Nat) (e : Int) :
    ((Sign.positive.apply m : Int) * 2 ^ e : ℚ) = m * 2 ^ e :=
  rfl

theorem negative_apply_mul (m : Nat) (e : Int) :
    ((Sign.negative.apply m : Int) * 2 ^ e : ℚ) = -(m * 2 ^ e) := by
  rw [Sign.apply, Int.cast_neg, Int.cast_natCast, neg_mul]

theorem abs_apply_mul (sign : Sign) (m : Nat) (e : Int) :
    |(sign.apply m * 2 ^ e : ℚ)| = m * 2 ^ e := by
  rw [abs_mul, ← Int.cast_abs, Int.abs_eq_natAbs, natAbs_apply, abs_of_pos (by positivity)]
  rfl

/-! ## Order -/

/-- Of two magnitudes the one with the greater exponent is greater, and of two with one
exponent the one with the greater significand. -/
theorem Canonical.compare_eq {m' : Nat} {e' : Int} (canonical : Canonical m e)
    (canonical' : Canonical m' e') :
    (compare e e').then (compare m m') = compare (m * 2 ^ e : ℚ) (m' * 2 ^ e') := by
  have less {m m' : Nat} {e e' : Int} (canonical : Canonical m e) (canonical' : Canonical m' e')
      (lt : e < e') : (m * 2 ^ e : ℚ) < m' * 2 ^ e' := by
    have normal : 2 ^ 52 ≤ m' := canonical'.full.resolve_right (by have := canonical.least; omega)
    calc (m * 2 ^ e : ℚ) < 2 ^ 53 * 2 ^ e := by gcongr; exact_mod_cast canonical.short
      _ = 2 ^ 52 * 2 ^ (e + 1) := by rw [zpow_add_one₀ two_ne_zero]; ring
      _ ≤ m' * 2 ^ e' := by
        gcongr
        · exact_mod_cast normal
        · norm_num
        · exact lt
  rcases lt_trichotomy e e' with lt | rfl | gt
  · rw [compare_lt_iff_lt.mpr lt, compare_lt_iff_lt.mpr (less canonical canonical' lt)]
    rfl
  · have unit : (0 : ℚ) < 2 ^ e := by positivity
    rw [compare_eq_iff_eq.mpr rfl]
    rcases lt_trichotomy m m' with lt | rfl | gt
    · rw [compare_lt_iff_lt.mpr lt, compare_lt_iff_lt.mpr (by gcongr)]
      rfl
    · rw [compare_eq_iff_eq.mpr rfl, compare_eq_iff_eq.mpr rfl]
      rfl
    · rw [compare_gt_iff_gt.mpr gt, compare_gt_iff_gt.mpr (by gcongr)]
      rfl
  · rw [compare_gt_iff_gt.mpr gt, compare_gt_iff_gt.mpr (less canonical' canonical gt)]
    rfl

theorem swap_compare_neg (p q : ℚ) : (compare p q).swap = compare (-p) (-q) := by
  rcases lt_trichotomy p q with lt | rfl | gt
  · rw [compare_lt_iff_lt.mpr lt, compare_gt_iff_gt.mpr (neg_lt_neg lt)]
    rfl
  · rw [compare_eq_iff_eq.mpr rfl, compare_eq_iff_eq.mpr rfl]
    rfl
  · rw [compare_gt_iff_gt.mpr gt, compare_lt_iff_lt.mpr (neg_lt_neg gt)]
    rfl

/-- Finite doubles are compared as their numbers are. -/
theorem Denotes.compare_eq (denotes : Denotes a p) (denotes' : Denotes b q) :
    a.compare b = some (compare p q) := by
  cases denotes with
  | zero sign =>
      cases denotes' with
      | zero other => exact congrArg some (compare_eq_iff_eq.mpr rfl).symm
      | @finite other m e positive' canonical' =>
          have above : (0 : ℚ) < m * 2 ^ e := by positivity
          cases other with
          | negative =>
              rw [negative_apply_mul, compare_gt_iff_gt.mpr (neg_neg_of_pos above)]
              rfl
          | positive =>
              rw [positive_apply_mul, compare_lt_iff_lt.mpr above]
              rfl
  | @finite sign m e positive canonical =>
      have above : (0 : ℚ) < m * 2 ^ e := by positivity
      cases denotes' with
      | zero other =>
          cases sign with
          | negative =>
              rw [negative_apply_mul, compare_lt_iff_lt.mpr (neg_neg_of_pos above)]
              rfl
          | positive =>
              rw [positive_apply_mul, compare_gt_iff_gt.mpr above]
              rfl
      | @finite other m' e' positive' canonical' =>
          have above' : (0 : ℚ) < m' * 2 ^ e' := by positivity
          have magnitudes := canonical.compare_eq canonical'
          cases sign <;> cases other
          case positive.positive =>
            rw [positive_apply_mul, positive_apply_mul, ← magnitudes]
            rfl
          case negative.negative =>
            rw [negative_apply_mul, negative_apply_mul, ← swap_compare_neg, ← magnitudes]
            rfl
          case positive.negative =>
            rw [positive_apply_mul, negative_apply_mul,
              compare_gt_iff_gt.mpr ((neg_neg_of_pos above').trans above)]
            rfl
          case negative.positive =>
            rw [positive_apply_mul, negative_apply_mul,
              compare_lt_iff_lt.mpr ((neg_neg_of_pos above).trans above')]
            rfl

section Order

variable (left : Holds x p) (right : Holds y q)
include left right

theorem Holds.lt_iff : x < y ↔ p < q := by
  rw [Real64.lt_iff, left.compare_eq right, Option.some_inj, compare_lt_iff_lt]

theorem Holds.le_iff : x ≤ y ↔ p ≤ q := by
  rw [Real64.le_iff, left.compare_eq right, Option.any_some, Ordering.isLE_iff_ne_gt]
  exact compare_le_iff_le

theorem Holds.beq_iff : (x == y) = true ↔ p = q := by
  rw [Real64.beq_iff, ← compare_eq_iff_eq, ← Option.some_inj, ← left.compare_eq right]
  exact ⟨compare_of_sameNumber, sameNumber_of_compare⟩

end Order

end Assessment.Real64
