import Assessment.Proofs.IntegerOperands

/-!
# Greatest divisors and least multiples

`gcd` and `lcm` are determined by the set of the integers in their operands: the greatest
common divisor and the least common multiple of their magnitudes in the order of
divisibility.  Only a result that 64 bits do not hold is an overflow, since partial
multiples divide the whole one.
-/

namespace Assessment

namespace Arithmetic

/-- The number divides all of the integers, and is a multiple of all that do. -/
structure IsGreatestDivisor (integers : List Int64) (divisor : Nat) : Prop where
  divides : ∀ i ∈ integers, (divisor : Int) ∣ i.toInt
  greatest : ∀ other : Nat, (∀ i ∈ integers, (other : Int) ∣ i.toInt) → other ∣ divisor

/-- The number is a multiple of all of the integers, and divides all that are. -/
structure IsLeastMultiple (integers : List Int64) (multiple : Nat) : Prop where
  divisible : ∀ i ∈ integers, i.toInt ∣ (multiple : Int)
  least : ∀ other : Nat, (∀ i ∈ integers, i.toInt ∣ (other : Int)) → multiple ∣ other

variable {integers others : List Int64} {divisor multiple : Nat}

/-! ## Folded divisors and multiples -/

theorem dvd_foldl_gcd_iff {values : List Nat} {total other : Nat} :
    other ∣ values.foldl Nat.gcd total ↔ other ∣ total ∧ ∀ value ∈ values, other ∣ value := by
  induction values generalizing total with
  | nil => simp
  | cons value values induction =>
      rw [List.foldl_cons, induction, Nat.dvd_gcd_iff, and_assoc, List.forall_mem_cons]

theorem foldl_lcm_dvd_iff {values : List Nat} {total other : Nat} :
    values.foldl Nat.lcm total ∣ other ↔ total ∣ other ∧ ∀ value ∈ values, value ∣ other := by
  induction values generalizing total with
  | nil => simp
  | cons value values induction =>
      rw [List.foldl_cons, induction, Nat.lcm_dvd_iff, and_assoc, List.forall_mem_cons]

theorem dvd_magnitudes_iff {other : Nat} :
    (∀ value ∈ magnitudes integers, other ∣ value) ↔ ∀ i ∈ integers, (other : Int) ∣ i.toInt := by
  simp only [magnitudes, List.forall_mem_map, Int.ofNat_dvd_left]

theorem magnitudes_dvd_iff {other : Nat} :
    (∀ value ∈ magnitudes integers, value ∣ other) ↔ ∀ i ∈ integers, i.toInt ∣ (other : Int) := by
  simp only [magnitudes, List.forall_mem_map, Int.ofNat_dvd_right]

theorem isGreatestDivisor_foldl (integers : List Int64) :
    IsGreatestDivisor integers ((magnitudes integers).foldl Nat.gcd 0) := by
  have divides (other : Nat) : other ∣ (magnitudes integers).foldl Nat.gcd 0 ↔
      ∀ i ∈ integers, (other : Int) ∣ i.toInt := by
    rw [dvd_foldl_gcd_iff, dvd_magnitudes_iff]
    exact and_iff_right (Nat.dvd_zero other)
  exact ⟨(divides _).mp (Nat.dvd_refl _), fun other => (divides other).mpr⟩

theorem isLeastMultiple_foldl (integers : List Int64) :
    IsLeastMultiple integers ((magnitudes integers).foldl Nat.lcm 1) := by
  have divisible (other : Nat) : (magnitudes integers).foldl Nat.lcm 1 ∣ other ↔
      ∀ i ∈ integers, i.toInt ∣ (other : Int) := by
    rw [foldl_lcm_dvd_iff, magnitudes_dvd_iff]
    exact and_iff_right (Nat.one_dvd other)
  exact ⟨(divisible _).mp (Nat.dvd_refl _), fun other => (divisible other).mpr⟩

theorem foldl_lcm_eq_zero_iff :
    (magnitudes integers).foldl Nat.lcm 1 = 0 ↔ 0 ∈ integers := by
  have magnitude : 0 ∈ magnitudes integers ↔ 0 ∈ integers := by
    simp only [magnitudes, List.mem_map, Int.natAbs_eq_zero]
    constructor
    · rintro ⟨i, member, zero⟩
      rwa [← show i = 0 from Int64.toInt_inj.mp zero]
    · intro member
      exact ⟨0, member, rfl⟩
  rw [← magnitude]
  refine ⟨fun zero => ?_, foldl_lcm_eq_zero⟩
  by_contra nonzero
  have positive : ∀ value ∈ magnitudes integers, 0 < value := fun value member =>
    Nat.pos_of_ne_zero fun same => nonzero (same ▸ member)
  have grown := le_foldl_lcm Nat.one_pos positive
  omega

/-! ## Only the set of integers counts -/

theorem IsGreatestDivisor.eq_zero_iff (greatest : IsGreatestDivisor integers divisor) :
    divisor = 0 ↔ ∀ i ∈ integers, i = 0 := by
  constructor
  · rintro rfl i member
    exact Int64.toInt_inj.mp (Int.zero_dvd.mp (greatest.divides i member))
  · intro zeros
    have zero : 0 ∣ divisor := by
      refine greatest.greatest 0 fun i member => ?_
      rw [zeros i member]
      exact Int.dvd_refl 0
    exact Nat.eq_zero_of_zero_dvd zero

/-- A divisor of a word that is not zero is at most the magnitude of the least word. -/
theorem IsGreatestDivisor.le (greatest : IsGreatestDivisor integers divisor) :
    divisor ≤ 2 ^ 63 := by
  by_cases zeros : ∀ i ∈ integers, i = 0
  · rw [greatest.eq_zero_iff.mpr zeros]
    exact Nat.zero_le _
  · push Not at zeros
    obtain ⟨i, member, nonzero⟩ := zeros
    have magnitude : 0 < i.toInt.natAbs := Int.natAbs_pos.mpr (toInt_ne_zero nonzero)
    have small : divisor ≤ i.toInt.natAbs :=
      Nat.le_of_dvd magnitude (Int.ofNat_dvd_left.mp (greatest.divides i member))
    have holds := Word.long_holds i
    simp only [Word.Holds, Word.long, Integer.least, Integer.greatest] at holds
    omega

theorem IsGreatestDivisor.unique (greatest : IsGreatestDivisor integers divisor)
    {other : Nat} (otherGreatest : IsGreatestDivisor others other)
    (same : ∀ i, i ∈ others ↔ i ∈ integers) : other = divisor := by
  refine Nat.dvd_antisymm (greatest.greatest _ fun i member => ?_)
    (otherGreatest.greatest _ fun i member => ?_)
  · exact otherGreatest.divides i ((same i).mpr member)
  · exact greatest.divides i ((same i).mp member)

theorem IsLeastMultiple.unique (least : IsLeastMultiple integers multiple)
    {other : Nat} (otherLeast : IsLeastMultiple others other)
    (same : ∀ i, i ∈ others ↔ i ∈ integers) : other = multiple := by
  refine Nat.dvd_antisymm (otherLeast.least _ fun i member => ?_)
    (least.least _ fun i member => ?_)
  · exact least.divisible i ((same i).mp member)
  · exact otherLeast.divisible i ((same i).mpr member)

theorem gcd_congr (same : ∀ i, i ∈ others ↔ i ∈ integers) : gcd others = gcd integers := by
  rw [gcd, gcd, (isGreatestDivisor_foldl integers).unique (isGreatestDivisor_foldl others) same]

theorem lcm_congr (same : ∀ i, i ∈ others ↔ i ∈ integers) : lcm others = lcm integers := by
  rw [lcm, lcm, (isLeastMultiple_foldl integers).unique (isLeastMultiple_foldl others) same]

end Arithmetic

namespace Operator

open Arithmetic
open Evaluation (Gives)

variable {operands others : List Value} {groups otherGroups : List (List Int64)}

theorem apply_gcd_lcm_gives (context : Context) (some : operands ≠ [])
    (holds : List.Forall₂ Value.HoldsIntegers operands groups) :
    Gives (Operator.gcd.apply context operands) (Arithmetic.gcd groups.flatten) ∧
      Gives (Operator.lcm.apply context operands) (Arithmetic.lcm groups.flatten) := by
  have admits : (Signature.atLeast 1 [⟨Accepts.scalars, [.integer]⟩]).Admits operands := by
    refine Signature.admits_atLeast (List.length_pos_iff.mpr some) fun operand member => ?_
    obtain ⟨_, _, one⟩ := exists_of_mem_left holds member
    exact one.admits
  have filled : ∀ operand ∈ operands, operand.isNull = false := by
    intro operand member
    obtain ⟨_, _, one⟩ := exists_of_mem_left holds member
    exact one.notNull
  rw [← Value.HoldsIntegers.integers_eq_flatten holds]
  exact ⟨apply_gives context (by simp) admits filled, apply_gives context (by simp) admits filled⟩

/-- For operands that hold integers, `gcd` gives their greatest common divisor, which is zero
only if they all are, and overflows only if it is the magnitude of the least word; `lcm`
gives their least common multiple, which is zero only if one of them is, and overflows only
if it is greater than the greatest word.  Step by step on machine words the results are the
same, and so are those of all operands that hold the same integers, in whatever order, how
often, and in whatever containers. -/
theorem gcd_lcm_exact (context : Context) (some : operands ≠ [])
    (holds : List.Forall₂ Value.HoldsIntegers operands groups) :
    (∃ divisor : Nat,
      IsGreatestDivisor groups.flatten divisor ∧ (divisor = 0 ↔ ∀ i ∈ groups.flatten, i = 0) ∧
        divisor ≤ 2 ^ 63 ∧ GivesInteger context .gcd operands divisor (divisor ≠ 2 ^ 63)) ∧
    (∃ multiple : Nat,
      IsLeastMultiple groups.flatten multiple ∧ (multiple = 0 ↔ 0 ∈ groups.flatten) ∧
        GivesInteger context .lcm operands multiple (multiple ≤ 2 ^ 63 - 1)) ∧
    (∃ gcd lcm : Evaluated Value,
      Gives (Operator.gcd.apply context operands) gcd ∧ gcd? groups.flatten = .some gcd ∧
        Gives (Operator.lcm.apply context operands) lcm ∧ lcm? groups.flatten = .some lcm) ∧
    ∀ others otherGroups, others ≠ [] → List.Forall₂ Value.HoldsIntegers others otherGroups →
      (∀ i, i ∈ otherGroups.flatten ↔ i ∈ groups.flatten) →
        Operator.gcd.apply context others = Operator.gcd.apply context operands ∧
          Operator.lcm.apply context others = Operator.lcm.apply context operands := by
  obtain ⟨divides, multiplies⟩ := apply_gcd_lcm_gives context some holds
  have greatest := isGreatestDivisor_foldl groups.flatten
  have least := isLeastMultiple_foldl groups.flatten
  refine ⟨⟨_, greatest, greatest.eq_zero_iff, greatest.le, ?_⟩,
    ⟨_, least, foldl_lcm_eq_zero_iff, ?_⟩,
    ⟨_, _, divides, gcd?_eq_some _, multiplies, lcm?_eq_some _⟩, ?_⟩
  · refine givesInteger_of_ofInteger? divides ?_
    have small := greatest.le
    simp only [Word.Holds, Word.long, Integer.least, Integer.greatest]
    omega
  · refine givesInteger_of_ofInteger? multiplies ?_
    simp only [Word.Holds, Word.long, Integer.least, Integer.greatest]
    omega
  · intro others otherGroups someOther holdsOther same
    obtain ⟨otherDivides, otherMultiplies⟩ := apply_gcd_lcm_gives context someOther holdsOther
    rw [gcd_congr same] at otherDivides
    rw [lcm_congr same] at otherMultiplies
    exact ⟨otherDivides.eq divides, otherMultiplies.eq multiplies⟩

/-- Between the least word and zero, the divisor overflows and the multiple is zero. -/
theorem gcd_lcm_exact_extreme :
    let operands : List Value :=
      [.ordered ⟨.integer, [.integer Int64.minValue, .integer 0]⟩, .integer Int64.minValue]
    let others : List Value :=
      [.integer 0, .multiple ⟨.integer, [.integer 0, .integer Int64.minValue]⟩]
    let groups : List (List Int64) := [[Int64.minValue, 0], [Int64.minValue]]
    let context : Context := ⟨⟨.default, .standard⟩, ⟨[]⟩⟩
    operands ≠ [] ∧ List.Forall₂ Value.HoldsIntegers operands groups ∧
      Gives (Operator.gcd.apply context operands) (.error (.overflow "gcd")) ∧
      Gives (Operator.lcm.apply context operands) (.ok (.integer 0)) ∧
      Operator.gcd.apply context others = Operator.gcd.apply context operands ∧
      Operator.lcm.apply context others = Operator.lcm.apply context operands := by
  intro operands others groups context
  have holds : List.Forall₂ Value.HoldsIntegers operands groups :=
    .cons (.ordered [_, _] (by decide)) (.cons (.single _) .nil)
  have holdsOther : List.Forall₂ Value.HoldsIntegers others [[0], [0, Int64.minValue]] :=
    .cons (.single _) (.cons (.multiple [_, _] (by decide)) .nil)
  obtain ⟨_, _, _, alike⟩ := gcd_lcm_exact context (List.cons_ne_nil _ _) holds
  have same : ∀ i : Int64, i ∈ [[0], [0, Int64.minValue]].flatten ↔ i ∈ groups.flatten := by
    simp [groups, or_comm]
  exact ⟨List.cons_ne_nil _ _, holds, fun _ => rfl, fun _ => rfl,
    alike others _ (List.cons_ne_nil _ _) holdsOther same⟩

end Operator

end Assessment
