import Assessment.Number.Integer

/-!
# Machine words

Integer operations on words of a machine are partial: a result that the word cannot
hold is a fault, and so is a division by zero.  `none` stands for a fault.
-/

namespace Assessment

/-- The range of numbers that a word holds. -/
structure Word where
  least : Int
  greatest : Int

namespace Word

/-- Signed words of 64 bits. -/
def long : Word := ⟨Integer.least, Integer.greatest⟩

/-- Signed words of 128 bits. -/
def wide : Word :=
  ⟨-170141183460469231731687303715884105728, 170141183460469231731687303715884105727⟩

/-- Unsigned words of 64 bits. -/
def unsigned : Word := ⟨0, 18446744073709551615⟩

def Holds (word : Word) (n : Int) : Prop :=
  word.least ≤ n ∧ n ≤ word.greatest

instance (word : Word) (n : Int) : Decidable (word.Holds n) :=
  inferInstanceAs (Decidable (_ ∧ _))

/-- The result of an operation, if the word holds it. -/
def hold? (word : Word) (n : Int) : Option Int :=
  if word.Holds n then some n else none

/-- The quotient rounded towards zero. -/
def quotient? (word : Word) (a b : Int) : Option Int :=
  if b = 0 then none else word.hold? (a.tdiv b)

/-- The remainder that belongs to `quotient?`, and that faults whenever it does. -/
def remainder? (word : Word) (a b : Int) : Option Int :=
  (word.quotient? a b).map fun _ => a.tmod b

/-- The sum of two numbers that count things of which `present` are in memory together.  A
word holds each number up to that; a sum beyond it may overflow. -/
def sumOfCounts? (present a b : Nat) : Option Nat :=
  if a + b ≤ present then some (a + b) else none

variable {word : Word} {a b n : Int}

theorem hold?_eq_some (holds : word.Holds n) : word.hold? n = some n :=
  if_pos holds

theorem hold?_eq_none (overflows : ¬word.Holds n) : word.hold? n = none :=
  if_neg overflows

theorem quotient?_eq_some (nonzero : b ≠ 0) (holds : word.Holds (a.tdiv b)) :
    word.quotient? a b = some (a.tdiv b) := by
  rw [quotient?, if_neg nonzero, hold?_eq_some holds]

theorem quotient?_eq_none (overflows : ¬word.Holds (a.tdiv b)) : word.quotient? a b = none := by
  unfold quotient?
  split
  next => rfl
  next => exact if_neg overflows

theorem remainder?_eq_some (nonzero : b ≠ 0) (holds : word.Holds (a.tdiv b)) :
    word.remainder? a b = some (a.tmod b) := by
  rw [remainder?, quotient?_eq_some nonzero holds, Option.map_some]

theorem remainder?_eq_none (overflows : ¬word.Holds (a.tdiv b)) :
    word.remainder? a b = none := by
  rw [remainder?, quotient?_eq_none overflows, Option.map_none]

/-- A quotient of numbers that are not negative is no greater than the dividend. -/
theorem holds_tdiv (zero : word.Holds 0) (dividend : word.Holds a) (nonneg : 0 ≤ a)
    (nonnegDivisor : 0 ≤ b) : word.Holds (a.tdiv b) := by
  have lower : 0 ≤ a.tdiv b := Int.tdiv_nonneg nonneg nonnegDivisor
  have upper : a.tdiv b ≤ a := Int.tdiv_le_self b nonneg
  exact ⟨Int.le_trans zero.1 lower, Int.le_trans upper dividend.2⟩

/-- Remainders of numbers that are not negative are below their divisor. -/
theorem toNat_remainder?_lt {a b : Nat} {remainder : Int} (nonzero : b ≠ 0)
    (found : word.remainder? a b = some remainder) : remainder.toNat < b := by
  obtain ⟨quotient, _, rfl⟩ := Option.map_eq_some_iff.mp found
  exact Nat.mod_lt _ (Nat.pos_of_ne_zero nonzero)

theorem long_holds (i : Int64) : long.Holds i.toInt := by
  have lower := Int64.le_toInt i
  have upper := Int64.toInt_lt i
  simp only [Holds, long, Integer.least, Integer.greatest]
  omega

theorem fits_iff : Integer.fits n = true ↔ long.Holds n :=
  Integer.fits_iff

theorem exists_of_holds (holds : long.Holds n) : ∃ i : Int64, i.toInt = n :=
  ⟨Int64.ofInt n, Integer.toInt_ofInt?_eq (if_pos (fits_iff.mpr holds))⟩

end Word

end Assessment
