import Assessment.Proofs.IntegerOperands
import Mathlib.Data.Rat.Floor

/-!
# Division with the floor

`integerDivide` and `integerModulus` are the two halves of one division: the quotient is
the floor of the fraction, and the remainder is what is left, on the side of zero of the
divisor.  Of all dividends and divisors of 64 bits only the least word over minus one has
no quotient, and there both overflow.
-/

namespace Assessment

namespace Arithmetic

variable {a b : Int}

/-- The least word over minus one, whose quotient no word holds. -/
def Extreme (a b : Int) : Prop :=
  a = Integer.least ∧ b = -1

/-- The quotient and the remainder of a division that rounds towards minus infinity. -/
structure FloorDivision (a b quotient remainder : Int) : Prop where
  floor : quotient = ⌊(a : ℚ) / (b : ℚ)⌋
  whole : a = quotient * b + remainder
  smaller : remainder.natAbs < b.natAbs
  side : remainder = 0 ∨ remainder.sign = b.sign

theorem fdiv_eq_floor (a b : Int) : a.fdiv b = ⌊(a : ℚ) / (b : ℚ)⌋ := by
  have nonneg (a b : Int) (nonneg : 0 ≤ b) : a.fdiv b = ⌊(a : ℚ) / (b : ℚ)⌋ := by
    obtain ⟨divisor, rfl⟩ := Int.eq_ofNat_of_zero_le nonneg
    rw [Int.fdiv_eq_ediv_of_nonneg a nonneg]
    exact (Rat.floor_intCast_div_natCast a divisor).symm
  rcases Int.le_total 0 b with positive | negative
  · exact nonneg a b positive
  · have opposite := nonneg (-a) (-b) (Int.neg_nonneg.mpr negative)
    rwa [Int.neg_fdiv_neg, Int.cast_neg, Int.cast_neg, neg_div_neg_eq] at opposite

theorem fmod_sign (a : Int) (nonzero : b ≠ 0) :
    a.fmod b = 0 ∨ (a.fmod b).sign = b.sign := by
  rcases Int.lt_or_gt_of_ne nonzero with negative | positive
  · have nonpos : a.fmod b ≤ 0 := by
      have opposite := Int.fmod_nonneg_of_pos (-a) (b := -b) (by omega)
      rw [Int.neg_fmod_neg] at opposite
      omega
    rcases Int.lt_or_eq_of_le nonpos with below | zero
    · exact .inr (by rw [Int.sign_eq_neg_one_of_neg below, Int.sign_eq_neg_one_of_neg negative])
    · exact .inl zero
  · have nonneg : 0 ≤ a.fmod b := Int.fmod_nonneg_of_pos a positive
    rcases Int.lt_or_eq_of_le nonneg with above | zero
    · exact .inr (by rw [Int.sign_eq_one_of_pos above, Int.sign_eq_one_of_pos positive])
    · exact .inl zero.symm

theorem floorDivision_fdiv_fmod (a : Int) (nonzero : b ≠ 0) :
    FloorDivision a b (a.fdiv b) (a.fmod b) := by
  refine ⟨fdiv_eq_floor a b, ?_, ?_, fmod_sign a nonzero⟩
  · rw [Int.mul_comm, Int.mul_fdiv_add_fmod]
  · rcases Int.lt_or_gt_of_ne nonzero with negative | positive
    · have opposite := Int.fmod_lt_of_pos (-a) (b := -b) (by omega)
      have nonneg := Int.fmod_nonneg_of_pos (-a) (b := -b) (by omega)
      rw [Int.neg_fmod_neg] at opposite nonneg
      omega
    · have below := Int.fmod_lt_of_pos a positive
      have nonneg := Int.fmod_nonneg_of_pos a positive
      omega

theorem holds_tdiv_iff (dividend : Word.long.Holds a) (nonzero : b ≠ 0) :
    Word.long.Holds (a.tdiv b) ↔ ¬Extreme a b := by
  constructor
  · rintro holds ⟨rfl, rfl⟩
    exact absurd holds (by decide)
  · intro ordinary
    by_contra overflows
    have parts := Int.mul_tdiv_add_tmod a b
    obtain ⟨least, greatest⟩ := eq_least_of_not_holds dividend overflows
    rw [greatest, tmod_eq_zero_of_not_holds dividend nonzero overflows, least] at parts
    refine ordinary ⟨least, ?_⟩
    rw [Integer.least] at parts
    omega

/-- The corrections of a division that rounds towards zero stay within words. -/
structure CorrectionsHold (a b : Int) : Prop where
  quotient : a.tmod b ≠ 0 ∧ (a < 0 ↔ ¬b < 0) → Word.long.Holds (a.tdiv b - 1)
  remainder : a.tmod b ≠ 0 ∧ (a.tmod b < 0 ↔ ¬b < 0) → Word.long.Holds (a.tmod b + b)

theorem correctionsHold (dividend : Word.long.Holds a) (divisor : Word.long.Holds b)
    (nonzero : b ≠ 0) (ordinary : ¬Extreme a b) : CorrectionsHold a b := by
  constructor
  · intro corrected
    have rounded := fdiv_eq_tdiv_sub (a := a) nonzero
    rw [if_pos corrected] at rounded
    rw [← rounded]
    exact (holds_fdiv_iff dividend nonzero).mpr ((holds_tdiv_iff dividend nonzero).mpr ordinary)
  · intro corrected
    have rounded := fmod_eq_tmod_add (a := a) (b := b)
    rw [if_pos corrected] at rounded
    rw [← rounded]
    exact holds_fmod dividend divisor

section Words

variable {a b : Int64}

theorem ne_zero_of_extreme (extreme : Extreme a.toInt b.toInt) : b ≠ 0 := by
  rintro rfl
  exact absurd extreme.2 (by decide)

theorem holds_fdiv_iff_not_extreme (nonzero : b ≠ 0) :
    Word.long.Holds (a.toInt.fdiv b.toInt) ↔ ¬Extreme a.toInt b.toInt :=
  (holds_fdiv_iff (Word.long_holds a) (toInt_ne_zero nonzero)).trans
    (holds_tdiv_iff (Word.long_holds a) (toInt_ne_zero nonzero))

theorem exists_integerDivide (nonzero : b ≠ 0) (ordinary : ¬Extreme a.toInt b.toInt) :
    ∃ quotient : Int64, quotient.toInt = a.toInt.fdiv b.toInt ∧
      integerDivide a b = .ok (.integer quotient) := by
  rw [integerDivide, if_neg nonzero]
  exact Value.exists_ofInteger?_eq_ok _ ((holds_fdiv_iff_not_extreme nonzero).mpr ordinary)

theorem exists_integerModulus (nonzero : b ≠ 0) (ordinary : ¬Extreme a.toInt b.toInt) :
    ∃ remainder : Int64, remainder.toInt = a.toInt.fmod b.toInt ∧
      integerModulus a b = .ok (.integer remainder) := by
  have fits := Word.fits_iff.mpr ((holds_fdiv_iff_not_extreme nonzero).mpr ordinary)
  rw [integerModulus, if_neg nonzero, if_pos fits]
  exact Value.exists_ofInteger?_eq_ok _
    (holds_fmod (Word.long_holds a) (Word.long_holds b))

theorem overflow_of_extreme (extreme : Extreme a.toInt b.toInt) :
    integerDivide a b = .error (.overflow "integerDivide") ∧
      integerModulus a b = .error (.overflow "integerModulus") := by
  have nonzero := ne_zero_of_extreme extreme
  have overflows : ¬Word.long.Holds (a.toInt.fdiv b.toInt) := by
    rw [holds_fdiv_iff_not_extreme nonzero]
    exact not_not_intro extreme
  rw [integerDivide, if_neg nonzero, integerModulus, if_neg nonzero,
    if_neg (mt Word.fits_iff.mp overflows)]
  exact ⟨Value.ofInteger?_eq_overflow overflows, rfl⟩

end Words

end Arithmetic

namespace Operator

open Arithmetic

theorem apply_integers_gives (context : Context) (a b : Int64) :
    Evaluation.Gives (Operator.integerDivide.apply context [.integer a, .integer b])
        (Arithmetic.integerDivide a b) ∧
      Evaluation.Gives (Operator.integerModulus.apply context [.integer a, .integer b])
        (Arithmetic.integerModulus a b) :=
  ⟨apply_integers context [a, b] (by simp) (by decide) rfl,
    apply_integers context [a, b] (by simp) (by decide) rfl⟩

/-- For all words, `integerDivide` gives the floor of the quotient and `integerModulus` what
is left of the dividend, except that both overflow for the least word over minus one and
both are NULL for a zero divisor.  Step by step on machine words nothing faults: neither of
the corrections of the division that rounds towards zero leaves the word. -/
theorem integerDivide_integerModulus_floor (context : Context) (a b : Int64) :
    ∃ divided modulus : Evaluated Value,
      Evaluation.Gives (Operator.integerDivide.apply context [.integer a, .integer b]) divided ∧
      Evaluation.Gives (Operator.integerModulus.apply context [.integer a, .integer b]) modulus ∧
      (b = 0 → divided = .ok .null ∧ modulus = .ok .null) ∧
      (Extreme a.toInt b.toInt →
        divided = .error (.overflow "integerDivide") ∧
          modulus = .error (.overflow "integerModulus")) ∧
      (b ≠ 0 → ¬Extreme a.toInt b.toInt →
        (∃ quotient remainder : Int64,
          divided = .ok (.integer quotient) ∧ modulus = .ok (.integer remainder) ∧
            FloorDivision a.toInt b.toInt quotient.toInt remainder.toInt) ∧
          CorrectionsHold a.toInt b.toInt) ∧
      Arithmetic.integerDivide? a b = some divided ∧
      Arithmetic.integerModulus? a b = some modulus := by
  obtain ⟨divides, leaves⟩ := apply_integers_gives context a b
  refine ⟨_, _, divides, leaves, ?_, overflow_of_extreme, ?_, integerDivide?_eq_some a b,
    integerModulus?_eq_some a b⟩
  · rintro rfl
    exact ⟨rfl, rfl⟩
  · intro nonzero ordinary
    have divisor := toInt_ne_zero nonzero
    obtain ⟨quotient, floored, divided⟩ := exists_integerDivide nonzero ordinary
    obtain ⟨remainder, left, modulus⟩ := exists_integerModulus nonzero ordinary
    have division := floorDivision_fdiv_fmod a.toInt divisor
    rw [← floored, ← left] at division
    exact ⟨⟨quotient, remainder, divided, modulus, division⟩,
      correctionsHold (Word.long_holds a) (Word.long_holds b) divisor ordinary⟩

end Operator

end Assessment
