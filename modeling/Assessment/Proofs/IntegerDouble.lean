import Assessment.Proofs.DoubleRounding
import Assessment.Proofs.DyadicValue

/-!
# Integers as doubles

An integer becomes the nearest double.  If one half is added to it the sum is rounded once
more, so that it may be a whole number although one half was added to a whole number.
-/

namespace Assessment.Real64

open Float.Model UnpackedFloat

variable {a : UnpackedFloat} {x : Float} {v : Int}

theorem Canonical.least_of_one_le {m : Nat} {e : Int} (canonical : Canonical m e)
    (whole : (1 : ℚ) ≤ m * 2 ^ e) : -52 ≤ e := by
  by_contra small
  have fraction : (m * 2 ^ e : ℚ) < 1 := by
    calc (m * 2 ^ e : ℚ) < 2 ^ 53 * 2 ^ e := by
          gcongr
          exact_mod_cast canonical.short
      _ ≤ 2 ^ 53 * 2 ^ (-53 : Int) := by
          gcongr
          · norm_num
          · omega
      _ = 1 := by norm_num
  exact absurd whole (not_le.mpr fraction)

/-- The parts of an integer other than zero: none of its bits lie behind the point. -/
structure IntegerParts (v : Int) (sign : Sign) (m k : Nat) : Prop where
  normal : 2 ^ 52 ≤ m
  short : m < 2 ^ 53
  scaled : sign.apply (m * 2 ^ k : Nat) = v * 2 ^ 52

namespace IntegerParts

variable {sign : Sign} {m k : Nat}

theorem two_pow_le (parts : IntegerParts v sign m k) : 2 ^ k ≤ v.natAbs := by
  have magnitude : m * 2 ^ k = v.natAbs * 2 ^ 52 := by
    have both := congrArg Int.natAbs parts.scaled
    rwa [natAbs_apply, Int.natAbs_mul] at both
  refine Nat.le_of_mul_le_mul_right ?_ (Nat.two_pow_pos 52)
  calc 2 ^ k * 2 ^ 52 ≤ 2 ^ k * m := Nat.mul_le_mul_left _ parts.normal
    _ = v.natAbs * 2 ^ 52 := by rw [Nat.mul_comm, magnitude]

theorem value (parts : IntegerParts v sign m k) :
    (sign.apply m * 2 ^ (k - 52 : Int) : ℚ) = v := by
  have moved := apply_mul_two_pow sign m k (-52)
  rw [parts.scaled, neg_add_eq_sub] at moved
  rw [← moved]
  push_cast
  ring

end IntegerParts

theorem Denotes.integer_cases (denotes : Denotes a v) :
    (v = 0 ∧ ∃ sign, a = .zero sign) ∨
      ∃ sign m, ∃ k : Nat, ∃ positive, a = .finite sign m (k - 52) positive ∧
        IntegerParts v sign m k := by
  generalize number : (v : ℚ) = q at denotes
  cases denotes with
  | zero sign => exact .inl ⟨by exact_mod_cast number, sign, rfl⟩
  | @finite sign m e positive canonical =>
      have magnitude : |(v : ℚ)| = m * 2 ^ e := by rw [number, abs_apply_mul]
      have above : (0 : ℚ) < |(v : ℚ)| := by
        rw [magnitude]
        positivity
      have nonzero : v ≠ 0 := by exact_mod_cast abs_pos.mp above
      have whole : (1 : ℚ) ≤ |(v : ℚ)| := by exact_mod_cast Int.one_le_abs nonzero
      have least := canonical.least_of_one_le (magnitude ▸ whole)
      obtain ⟨k, exponent⟩ := Int.eq_ofNat_of_zero_le (a := e + 52) (by omega)
      obtain rfl : e = k - 52 := by omega
      have scaled : ((sign.apply (m * 2 ^ k : Nat) : Int) : ℚ) = (v * 2 ^ 52 : Int) := by
        have moved := apply_mul_two_pow sign m k (-52)
        rw [neg_add_eq_sub, ← number] at moved
        rw [Int.cast_mul, ← moved]
        push_cast
        ring
      exact .inr ⟨sign, m, k, positive, rfl, canonical.full.resolve_right (by omega),
        canonical.short, by exact_mod_cast scaled⟩

theorem holds_neg {q : ℚ} (holds : Holds x q) : Holds (-x) (-q) := by
  have negated : Denotes x.toModel.unpack.neg (-q) := by
    unfold Holds at holds
    generalize x.toModel.unpack = a at *
    cases holds with
    | zero sign =>
        rw [neg_zero]
        exact .zero _
    | finite sign positive canonical =>
        rw [← neg_mul, ← apply_neg]
        exact .finite _ positive canonical
  exact negated.holds

/-- The product has fifty-two more bits than either factor, all of them zero. -/
theorem holds_mul_one {y : Float} (holds : Holds x v) (small : v.natAbs < 2 ^ 64)
    (one : y.toModel.unpack = .finite .positive (2 ^ 52) (-52) (by decide)) :
    Holds (x * y) v := by
  have product : Denotes (mul Format.binary64 x.toModel.unpack y.toModel.unpack) v := by
    rw [one]
    obtain ⟨rfl, sign, unpacked⟩ | ⟨sign, m, k, positive, unpacked, parts⟩ := holds.integer_cases
    · rw [unpacked, Int.cast_zero]
      exact .zero _
    · have limit : k < 64 := by
        refine (Nat.pow_lt_pow_iff_right (by decide : 1 < 2)).mp ?_
        exact parts.two_pow_le.trans_lt small
      have bits : m.log2 = 52 := (Nat.log2_eq_iff positive.ne').mpr ⟨parts.normal, parts.short⟩
      have bits' := log2_mul_two_pow positive.ne' 52
      have dropped : surplus (m * 2 ^ 52) = 52 := by
        unfold surplus
        omega
      have rounded := roundWithAccuracy_denotes (m := m * 2 ^ 52) (e := k - 52 + -52) sign
        (by omega) (by omega) (by omega)
      have sameSign : sign * .positive = sign := by cases sign <;> rfl
      rw [unpacked]
      change Denotes (roundWithAccuracy Format.binary64 (sign * .positive) (m * 2 ^ 52)
        (k - 52 + -52) .exact) v
      rw [nearestNat_mul_two_pow, nearestNat_of_lt parts.short, apply_mul_two_pow] at rounded
      rw [sameSign, ← parts.value]
      convert rounded using 3
      omega
  exact product.holds

theorem holds_toFloat (n : UInt64) : Holds n.toFloat (nearestNat n.toNat) := by
  have bits : n.toNat.log2 ≤ 1022 := by
    rcases Nat.eq_zero_or_pos n.toNat with zero | positive
    · rw [zero]
      decide
    · exact ((Nat.log2_lt positive.ne').mpr n.toNat_lt).le.trans (by decide)
  have denotes : Denotes (UnpackedFloat.normalize Format.binary64 n.toNat 0 .positive)
      (nearest n.toNat * 2 ^ (0 : Int)) :=
    normalize_denotes .positive (by decide) (by simpa using bits)
  rw [nearest_natCast, zpow_zero, mul_one, Int.cast_natCast] at denotes
  exact denotes.holds

/-- Numbers with few bits are converted and multiplied by one. -/
theorem ofNat_of_lt {n : Nat} (few : n < 2 ^ 53) :
    Float.ofNat n = n.toUInt64.toFloat * Float.ofBits 0x3FF0000000000000 :=
  (dif_pos ⟨few, Nat.zero_le _⟩).trans rfl

/-- Numbers with many bits are rounded with fifty-three zeros behind them. -/
theorem ofNat_of_le {n : Nat} (many : 2 ^ 53 ≤ n) :
    Float.ofNat n =
      .ofModel (.pack (roundWithAccuracy Format.binary64 .positive (n * 2 ^ 53) (-53) .exact)) := by
  have slow : Float.ofNat n =
      .ofModel (.pack (UnpackedFloat.ofScientific Format.binary64 n 0)) :=
    dif_neg fun ⟨few, _⟩ => absurd many (Nat.not_le.mpr few)
  have nonzero : n ≠ 0 := by rintro rfl; exact absurd many (by decide)
  have notTiny : ¬(0 : Int) < -(2 ^ 11 + n.log2) := by omega
  rw [slow, UnpackedFloat.ofScientific, dif_neg nonzero, if_neg (by decide), if_neg notTiny,
    if_pos (by decide)]
  change Float.ofModel (.pack (roundWithAccuracy Format.binary64 .positive (n <<< 53 * 1) (-53)
    .exact)) = _
  rw [Nat.shiftLeft_eq, Nat.mul_one]

/-- A natural number becomes the nearest double. -/
theorem holds_ofNat {n : Nat} (small : n < 2 ^ 64) : Holds (Float.ofNat n) (nearestNat n) := by
  by_cases few : n < 2 ^ 53
  · have one : (Float.ofBits 0x3FF0000000000000).toModel.unpack =
        .finite .positive (2 ^ 52) (-52) (by decide) := by
      rfl
    have converted := holds_toFloat n.toUInt64
    rw [show n.toUInt64.toNat = n from Nat.mod_eq_of_lt small, nearestNat_of_lt few] at converted
    rw [ofNat_of_lt few, nearestNat_of_lt few]
    exact holds_mul_one (v := n) converted small one
  · have many : 2 ^ 53 ≤ n := Nat.not_lt.mp few
    have nonzero : n ≠ 0 := by rintro rfl; exact absurd many (by decide)
    have bits := log2_mul_two_pow nonzero 53
    have fewer : n.log2 < 64 := (Nat.log2_lt nonzero).mpr small
    have dropped : surplus (n * 2 ^ 53) = n.log2 + 1 := by
      unfold surplus
      omega
    have rounded := roundWithAccuracy_denotes (m := n * 2 ^ 53) (e := -53) .positive
      (by omega) (by omega) (by omega)
    rw [nearestNat_mul_two_pow, apply_mul_two_pow, positive_apply_mul] at rounded
    rw [ofNat_of_le many]
    convert rounded.holds using 1
    norm_num

/-- An integer becomes the nearest double. -/
theorem holds_ofInteger (i : Int64) : Holds (ofInteger i) (nearest i.toInt) := by
  have lower := Int64.le_toInt i
  have upper := Int64.toInt_lt i
  unfold ofInteger
  generalize i.toInt = n at *
  cases n with
  | ofNat n =>
      rw [Int.ofNat_eq_natCast] at upper
      have holds := holds_ofNat (n := n) (by omega)
      rw [← Int.cast_natCast, ← nearest_natCast] at holds
      exact holds
  | negSucc n =>
      have holds := holds_neg (holds_ofNat (n := n + 1) (by omega))
      rw [← Int.cast_natCast, ← Int.cast_neg, ← nearest_natCast, ← nearest_neg] at holds
      exact holds

/-! ## One half more -/

/-- Both summands are written with the exponent of one half. -/
theorem add_half_eq {sign : Sign} {m k : Nat} (positive : 0 < m)
    (parts : IntegerParts v sign m k) :
    UnpackedFloat.add Format.binary64 (.finite sign m (k - 52) positive)
        (.finite .positive (2 ^ 52) (-53) (by decide)) =
      UnpackedFloat.normalize Format.binary64 ((2 * v + 1) * 2 ^ 52) (-53) .positive := by
  have least : min ((k : Int) - 52) (-53) = -53 := by omega
  have shift : ((k : Int) - 52 - -53).toNat = k + 1 := by omega
  have doubled : sign.apply (m <<< (k + 1) : Nat) = 2 * sign.apply (m * 2 ^ k : Nat) := by
    rw [Nat.shiftLeft_eq, Nat.pow_succ, ← Nat.mul_assoc]
    cases sign
    · simp only [Sign.apply]
      omega
    · simp only [Sign.apply]
      omega
  have total : sign.apply (m <<< (k + 1) : Nat) + (2 ^ 52 : Nat) = (2 * v + 1) * 2 ^ 52 := by
    rw [doubled, parts.scaled]
    push_cast
    ring
  unfold UnpackedFloat.add decreaseExponent
  dsimp only
  rw [least, shift, ← total]
  rfl

theorem log2_two_mul_add_one_lt (small : v.natAbs < 2 ^ 64) :
    ((2 * v + 1) * 2 ^ 52).natAbs.log2 < 118 := by
  have bound : (2 * v + 1).natAbs * 2 ^ 52 < 2 ^ 118 := by omega
  rw [Int.natAbs_mul]
  exact (Nat.log2_lt (Nat.mul_ne_zero (by omega) (by decide))).mpr bound

/-- The sum of an integer and one half is rounded to the nearest double. -/
theorem holds_add_half (holds : Holds x v) (small : v.natAbs < 2 ^ 64) :
    Holds (x + 0.5) (nearest (2 * v + 1) / 2) := by
  have half : (0.5 : Float).toModel.unpack = .finite .positive (2 ^ 52) (-53) (by decide) := by
    rfl
  have sum : Denotes (UnpackedFloat.add Format.binary64 x.toModel.unpack
      (0.5 : Float).toModel.unpack) (nearest (2 * v + 1) / 2) := by
    rw [half]
    obtain ⟨rfl, sign, unpacked⟩ | ⟨sign, m, k, positive, unpacked, parts⟩ := holds.integer_cases
    · have canonical : Canonical (2 ^ 52) (-53) := by constructor <;> decide
      have value : (nearest (2 * 0 + 1) / 2 : ℚ) =
          Sign.positive.apply (2 ^ 52 : Nat) * 2 ^ (-53 : Int) := by
        rw [nearest_of_small (by decide), positive_apply_mul]
        norm_num
      rw [unpacked, value]
      exact .finite .positive (by decide) canonical
    · have bits := log2_two_mul_add_one_lt small
      have rounded := normalize_denotes (n := (2 * v + 1) * 2 ^ 52) (e := -53) .positive
        (by decide) (by omega)
      rw [unpacked, add_half_eq positive parts]
      rw [nearest_mul_two_pow] at rounded
      convert rounded using 1
      push_cast
      ring
  exact sum.holds

end Assessment.Real64
