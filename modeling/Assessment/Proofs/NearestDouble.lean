import Assessment.Number.Figures
import Mathlib.Algebra.Order.Ring.Nat
import Mathlib.Data.Int.Order.Basic
import Mathlib.Tactic.Linarith
import Mathlib.Tactic.Ring

/-!
# Integers with fifty-three significant bits

A double holds fifty-three significant bits of an integer.  `Real64.nearest` is the integer
that is left of a greater one: the nearest of those with so few bits, and of two equally
near ones the one whose last bit is zero.  It keeps the order, but different integers may
have the same nearest one.
-/

namespace Assessment

/-! ## Halves to the even neighbour -/

section Division

variable {top other bottom factor : Nat}

theorem divideHalfEven_eq_or (top bottom : Nat) :
    (divideHalfEven top bottom = top / bottom ∧ 2 * (top % bottom) ≤ bottom) ∨
      (divideHalfEven top bottom = top / bottom + 1 ∧ bottom ≤ 2 * (top % bottom)) := by
  unfold divideHalfEven
  dsimp only
  split
  · omega
  · split
    · omega
    · split <;> omega

/-- The quotient is off by at most one half. -/
theorem divideHalfEven_near (top : Nat) (positive : 0 < bottom) :
    2 * top ≤ 2 * (divideHalfEven top bottom * bottom) + bottom ∧
      2 * (divideHalfEven top bottom * bottom) ≤ 2 * top + bottom := by
  have parts := Nat.div_add_mod' top bottom
  have below := Nat.mod_lt top positive
  rcases divideHalfEven_eq_or top bottom with ⟨same, small⟩ | ⟨same, large⟩
  · rw [same]
    omega
  · rw [same, Nat.succ_mul (top / bottom)]
    omega

theorem divideHalfEven_mul (quotient : Nat) (positive : 0 < bottom) :
    divideHalfEven (quotient * bottom) bottom = quotient := by
  rw [divideHalfEven, Nat.mul_mod_left, Nat.mul_div_cancel _ positive]
  exact if_pos positive

theorem divideHalfEven_mul_mul (top bottom : Nat) (positive : 0 < factor) :
    divideHalfEven (top * factor) (bottom * factor) = divideHalfEven top bottom := by
  simp only [divideHalfEven, Nat.mul_div_mul_right _ _ positive, Nat.mul_mod_mul_right,
    ← Nat.mul_assoc, Nat.mul_lt_mul_right positive]

theorem divideHalfEven_mono (positive : 0 < bottom) (le : top ≤ other) :
    divideHalfEven top bottom ≤ divideHalfEven other bottom := by
  rcases Nat.eq_or_lt_of_le le with rfl | less
  · exact Nat.le_refl _
  · by_contra greater
    -- the quotients would be at least one apart, but each is off by at most one half
    have apart : (divideHalfEven other bottom + 1) * bottom ≤ divideHalfEven top bottom * bottom :=
      Nat.mul_le_mul_right bottom (by omega)
    rw [Nat.succ_mul] at apart
    have lower := (divideHalfEven_near top positive).2
    have upper := (divideHalfEven_near other positive).1
    omega

end Division

namespace Real64

/-! ## Natural numbers -/

/-- The number of bits beyond the fifty-third. -/
def surplus (n : Nat) : Nat :=
  n.log2 - 52

/-- The natural number with at most fifty-three significant bits that is nearest to another
one. -/
def nearestNat (n : Nat) : Nat :=
  divideHalfEven n (2 ^ surplus n) * 2 ^ surplus n

variable {n other k : Nat}

theorem surplus_eq_zero (small : n < 2 ^ 53) : surplus n = 0 := by
  rcases Nat.eq_zero_or_pos n with rfl | positive
  · rfl
  · have bits := (Nat.log2_lt (Nat.ne_of_gt positive)).mpr small
    unfold surplus
    omega

theorem nearestNat_of_lt (small : n < 2 ^ 53) : nearestNat n = n := by
  have quotient := divideHalfEven_mul n Nat.zero_lt_one
  rw [nearestNat, surplus_eq_zero small, Nat.pow_zero, Nat.mul_one]
  rwa [Nat.mul_one] at quotient

theorem nearestNat_eq_self_iff : nearestNat n = n ↔ 2 ^ surplus n ∣ n := by
  have positive : 0 < 2 ^ surplus n := Nat.two_pow_pos _
  unfold nearestNat
  generalize 2 ^ surplus n = unit at *
  constructor
  · intro same
    exact ⟨_, same.symm.trans (Nat.mul_comm _ _)⟩
  · rintro ⟨quotient, rfl⟩
    rw [Nat.mul_comm unit, divideHalfEven_mul quotient positive]

theorem le_log2_of_large (large : ¬n < 2 ^ 53) : 53 ≤ n.log2 := by
  have nonzero : n ≠ 0 := by rintro rfl; exact large (Nat.two_pow_pos 53)
  exact (Nat.le_log2 nonzero).mpr (Nat.not_lt.mp large)

theorem log2_eq_add_surplus (bits : 52 ≤ n.log2) : n.log2 = 52 + surplus n := by
  unfold surplus
  omega

/-- A number with as many bits is given by fifty-three of them and its surplus. -/
theorem surplus_bounds (bits : 52 ≤ n.log2) :
    2 ^ 52 * 2 ^ surplus n ≤ n ∧ n < 2 ^ 53 * 2 ^ surplus n := by
  have nonzero : n ≠ 0 := by rintro rfl; cases bits
  rw [← Nat.pow_add, ← Nat.pow_add, Nat.add_right_comm 52 1, ← log2_eq_add_surplus bits]
  exact ⟨Nat.log2_self_le nonzero, Nat.lt_log2_self⟩

theorem log2_mul_two_pow (nonzero : n ≠ 0) (k : Nat) : (n * 2 ^ k).log2 = n.log2 + k := by
  have positive : 0 < 2 ^ k := Nat.two_pow_pos k
  rw [Nat.log2_eq_iff (Nat.mul_ne_zero nonzero positive.ne'), Nat.add_right_comm, Nat.pow_add,
    Nat.pow_add]
  exact ⟨Nat.mul_le_mul_right _ (Nat.log2_self_le nonzero),
    Nat.mul_lt_mul_of_pos_right Nat.lt_log2_self positive⟩

/-- Further zeros at the end change nothing. -/
theorem nearestNat_mul_two_pow (n k : Nat) : nearestNat (n * 2 ^ k) = nearestNat n * 2 ^ k := by
  rcases Nat.eq_zero_or_pos n with rfl | positive
  · rw [Nat.zero_mul, nearestNat_of_lt (Nat.two_pow_pos 53), Nat.zero_mul]
  have bits := log2_mul_two_pow positive.ne' k
  by_cases small : n < 2 ^ 53
  · -- all zeros that are dropped are among the further ones
    have fewBits := (Nat.log2_lt positive.ne').mpr small
    have dropped : surplus (n * 2 ^ k) ≤ k := by
      unfold surplus
      omega
    rw [nearestNat_of_lt small]
    exact nearestNat_eq_self_iff.mpr (Dvd.dvd.mul_left (Nat.pow_dvd_pow 2 dropped) n)
  · have manyBits := le_log2_of_large small
    have dropped : surplus (n * 2 ^ k) = surplus n + k := by
      unfold surplus
      omega
    rw [nearestNat, nearestNat, dropped, Nat.pow_add,
      divideHalfEven_mul_mul n _ (Nat.two_pow_pos k), Nat.mul_assoc]

/-- Of a number with as many bits, fifty-three remain, or it becomes the next power of two. -/
theorem significand_bounds (bits : 52 ≤ n.log2) :
    2 ^ 52 ≤ divideHalfEven n (2 ^ surplus n) ∧ divideHalfEven n (2 ^ surplus n) ≤ 2 ^ 53 := by
  have positive : 0 < 2 ^ surplus n := Nat.two_pow_pos _
  obtain ⟨lower, upper⟩ := surplus_bounds bits
  have least := divideHalfEven_mono positive lower
  have greatest := divideHalfEven_mono positive upper.le
  rw [divideHalfEven_mul _ positive] at least greatest
  exact ⟨least, greatest⟩

/-- The nearest number has the same first bit, or is the next power of two. -/
theorem nearestNat_bounds (nonzero : n ≠ 0) :
    2 ^ n.log2 ≤ nearestNat n ∧ nearestNat n ≤ 2 ^ (n.log2 + 1) := by
  by_cases small : n < 2 ^ 53
  · rw [nearestNat_of_lt small]
    exact ⟨Nat.log2_self_le nonzero, Nat.lt_log2_self.le⟩
  · have bits : 52 ≤ n.log2 := Nat.le_of_succ_le (le_log2_of_large small)
    obtain ⟨lower, upper⟩ := significand_bounds bits
    rw [nearestNat, log2_eq_add_surplus bits, Nat.add_right_comm, Nat.pow_add, Nat.pow_add]
    exact ⟨Nat.mul_le_mul_right _ lower, Nat.mul_le_mul_right _ upper⟩

/-- A natural number with at most fifty-three significant bits. -/
def Short (n : Nat) : Prop :=
  ∃ significand exponent, significand < 2 ^ 53 ∧ n = significand * 2 ^ exponent

theorem short_of_le (small : n ≤ 2 ^ 53) : Short n := by
  rcases Nat.eq_or_lt_of_le small with full | below
  · exact ⟨1, 53, by decide, full⟩
  · exact ⟨n, 0, below, (Nat.mul_one n).symm⟩

theorem short_nearestNat (n : Nat) : Short (nearestNat n) := by
  by_cases small : n < 2 ^ 53
  · rw [nearestNat_of_lt small]
    exact short_of_le small.le
  · obtain ⟨-, upper⟩ := significand_bounds (Nat.le_of_succ_le (le_log2_of_large small))
    rcases Nat.eq_or_lt_of_le upper with full | below
    · refine ⟨1, 53 + surplus n, by decide, ?_⟩
      rw [nearestNat, full, Nat.pow_add, Nat.one_mul]
    · exact ⟨_, _, below, rfl⟩

/-- A short number is a multiple of the unit in which a number is rounded, or is not above
its first bit. -/
theorem Short.dvd_or_le {r : Nat} (short : Short r) (n : Nat) :
    2 ^ surplus n ∣ r ∨ r ≤ 2 ^ n.log2 := by
  obtain ⟨significand, exponent, few, rfl⟩ := short
  rcases Nat.lt_or_ge exponent (surplus n) with fewer | more
  · have room : 53 + exponent ≤ n.log2 := by
      unfold surplus at fewer
      omega
    refine .inr ?_
    calc significand * 2 ^ exponent ≤ 2 ^ 53 * 2 ^ exponent := Nat.mul_le_mul_right _ few.le
      _ = 2 ^ (53 + exponent) := (Nat.pow_add 2 53 exponent).symm
      _ ≤ 2 ^ n.log2 := Nat.pow_le_pow_right Nat.two_pos room
  · exact .inl (Dvd.dvd.mul_left (Nat.pow_dvd_pow 2 more) significand)

/-- No multiple of the unit in which a number is rounded is nearer to it. -/
theorem nearestNat_near {r : Nat} (multiple : 2 ^ surplus n ∣ r) :
    ((n : Int) - nearestNat n).natAbs ≤ ((n : Int) - r).natAbs := by
  obtain ⟨lower, upper⟩ := divideHalfEven_near n (Nat.two_pow_pos (surplus n))
  obtain ⟨quotient, rfl⟩ := multiple
  rw [Nat.mul_comm, nearestNat]
  generalize divideHalfEven n (2 ^ surplus n) = rounded at *
  generalize 2 ^ surplus n = unit at *
  rcases Nat.lt_trichotomy quotient rounded with less | rfl | greater
  · have apart := Nat.mul_le_mul_right unit less
    rw [Nat.succ_mul quotient] at apart
    omega
  · exact Nat.le_refl _
  · have apart := Nat.mul_le_mul_right unit greater
    rw [Nat.succ_mul rounded] at apart
    omega

/-- No short number is nearer. -/
theorem nearestNat_closest {r : Nat} (short : Short r) :
    ((n : Int) - nearestNat n).natAbs ≤ ((n : Int) - r).natAbs := by
  rcases Nat.eq_zero_or_pos n with rfl | positive
  · exact Nat.zero_le _
  rcases short.dvd_or_le n with multiple | below
  · exact nearestNat_near multiple
  · -- the first bit is a multiple of the unit, and it lies between
    have first : 2 ^ surplus n ∣ 2 ^ n.log2 := Nat.pow_dvd_pow 2 (Nat.sub_le _ _)
    have near := nearestNat_near first
    have between := Nat.log2_self_le positive.ne'
    omega

theorem nearestNat_of_short (short : Short n) : nearestNat n = n := by
  have near := nearestNat_closest (n := n) short
  omega

theorem nearestNat_mono (le : n ≤ other) : nearestNat n ≤ nearestNat other := by
  rcases Nat.eq_zero_or_pos n with rfl | positive
  · rw [nearestNat_of_lt (Nat.two_pow_pos 53)]
    exact Nat.zero_le _
  have positive' : 0 < other := Nat.lt_of_lt_of_le positive le
  have bits : n.log2 ≤ other.log2 := by
    rw [Nat.le_log2 positive'.ne']
    exact (Nat.log2_self_le positive.ne').trans le
  rcases Nat.eq_or_lt_of_le bits with same | fewer
  · have sameSurplus : surplus n = surplus other := by rw [surplus, surplus, same]
    rw [nearestNat, nearestNat, sameSurplus]
    exact Nat.mul_le_mul_right _ (divideHalfEven_mono (Nat.two_pow_pos _) le)
  · -- a power of two lies between them
    calc nearestNat n ≤ 2 ^ (n.log2 + 1) := (nearestNat_bounds positive.ne').2
      _ ≤ 2 ^ other.log2 := Nat.pow_le_pow_right Nat.two_pos fewer
      _ ≤ nearestNat other := (nearestNat_bounds positive'.ne').1

/-! ## Integers -/

/-- The integer with at most fifty-three significant bits that is nearest to another one. -/
def nearest (n : Int) : Int :=
  n.sign * nearestNat n.natAbs

variable {a b : Int}

theorem nearest_natCast (n : Nat) : nearest n = nearestNat n := by
  rcases Nat.eq_zero_or_pos n with rfl | positive
  · rfl
  · rw [nearest, Int.sign_natCast_of_ne_zero positive.ne', Int.one_mul, Int.natAbs_natCast]

theorem nearest_neg (n : Int) : nearest (-n) = -nearest n := by
  rw [nearest, nearest, Int.sign_neg, Int.natAbs_neg, Int.neg_mul]

theorem natAbs_nearest (n : Int) : (nearest n).natAbs = nearestNat n.natAbs := by
  obtain ⟨m, rfl | rfl⟩ := n.eq_nat_or_neg
  · rw [nearest_natCast, Int.natAbs_natCast, Int.natAbs_natCast]
  · rw [nearest_neg, nearest_natCast, Int.natAbs_neg, Int.natAbs_neg, Int.natAbs_natCast,
      Int.natAbs_natCast]

theorem nearest_of_short (short : Short a.natAbs) : nearest a = a := by
  rw [nearest, nearestNat_of_short short]
  exact Int.sign_mul_natAbs a

theorem short_nearest (n : Int) : Short (nearest n).natAbs := by
  rw [natAbs_nearest]
  exact short_nearestNat _

theorem nearest_eq_self_iff : nearest a = a ↔ Short a.natAbs :=
  ⟨fun same => same ▸ short_nearest a, nearest_of_short⟩

theorem nearest_of_small (small : a.natAbs ≤ 2 ^ 53) : nearest a = a :=
  nearest_of_short (short_of_le small)

theorem natAbs_nearest_le (small : a.natAbs ≤ 2 ^ k) : (nearest a).natAbs ≤ 2 ^ k := by
  have limit : nearestNat (2 ^ k) = 2 ^ k :=
    nearestNat_of_short ⟨1, k, by decide, (Nat.one_mul _).symm⟩
  rw [natAbs_nearest, ← limit]
  exact nearestNat_mono small

/-- No integer of more than fifty-three bits becomes one of fewer. -/
theorem natAbs_nearest_lt_iff : (nearest a).natAbs < 2 ^ 53 ↔ a.natAbs < 2 ^ 53 := by
  rw [natAbs_nearest]
  constructor
  · intro small
    by_contra large
    have least : nearestNat (2 ^ 53) ≤ nearestNat a.natAbs :=
      nearestNat_mono (Nat.not_lt.mp large)
    rw [nearestNat_of_short (short_of_le (Nat.le_refl _))] at least
    omega
  · intro small
    rwa [nearestNat_of_lt small]

theorem nearest_mul_two_pow (n : Int) (k : Nat) : nearest (n * 2 ^ k) = nearest n * 2 ^ k := by
  have sign : (2 ^ k : Int).sign = 1 := Int.sign_eq_one_of_pos (Int.pow_pos (by decide))
  have magnitude : (2 ^ k : Int).natAbs = 2 ^ k := Int.natAbs_pow 2 k
  rw [nearest, nearest, Int.sign_mul, sign, Int.mul_one, Int.natAbs_mul, magnitude,
    nearestNat_mul_two_pow, Int.mul_assoc, Nat.cast_mul, Nat.cast_pow]
  rfl

theorem nearest_mono (le : a ≤ b) : nearest a ≤ nearest b := by
  obtain ⟨m, rfl | rfl⟩ := a.eq_nat_or_neg <;> obtain ⟨n, rfl | rfl⟩ := b.eq_nat_or_neg
  · rw [nearest_natCast, nearest_natCast]
    exact Int.ofNat_le.mpr (nearestNat_mono (by omega))
  · obtain ⟨rfl, rfl⟩ : m = 0 ∧ n = 0 := by omega
    exact Int.le_refl _
  · rw [nearest_neg, nearest_natCast, nearest_natCast]
    omega
  · rw [nearest_neg, nearest_neg, nearest_natCast, nearest_natCast]
    have back : nearestNat n ≤ nearestNat m := nearestNat_mono (by omega)
    omega

end Real64

end Assessment
