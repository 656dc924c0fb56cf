import Assessment.Evaluation.Arithmetic
import Assessment.Evaluation.Logic
import Assessment.Proofs.MachineWord
import Mathlib.Data.Nat.GCD.Basic
import Mathlib.Tactic.SplitIfs

/-!
# Arithmetic of operators on machine words

The operators on integers compute with words of a machine.  Here they do so step by
step, and each step that is partial may fault.  None of them does: each gives the result
of the unbounded arithmetic that it stands for.
-/

namespace Assessment

theorem Value.ofInteger?_eq_ok {operator : String} {n : Int} (holds : Word.long.Holds n) :
    ofInteger? operator n = .ok (.integer (Int64.ofInt n)) := by
  unfold ofInteger? Integer.ofInt?
  rw [if_pos (Word.fits_iff.mpr holds)]

theorem Value.ofInteger?_eq_overflow {operator : String} {n : Int}
    (overflows : ¬Word.long.Holds n) : ofInteger? operator n = .error (.overflow operator) := by
  unfold ofInteger? Integer.ofInt?
  rw [if_neg (mt Word.fits_iff.mp overflows)]

namespace Arithmetic

/-! ## Division -/

/-- The quotient rounded towards minus infinity, from the one rounded towards zero. -/
def floor? (a b quotient : Int) : Option Int := do
  let remainder ← Word.long.remainder? a b
  if remainder ≠ 0 ∧ (a < 0 ↔ ¬b < 0) then Word.long.hold? (quotient - 1) else some quotient

/-- The division is checked, so that its overflow is an error; what follows is not. -/
def integerDivide? (a b : Int64) : Option (Evaluated Value) :=
  if b = 0 then some (.ok .null)
  else
    match Word.long.quotient? a.toInt b.toInt with
    | none => some (.error (.overflow "integerDivide"))
    | some quotient =>
        (floor? a.toInt b.toInt quotient).map fun floor => .ok (.integer (Int64.ofInt floor))

/-- The remainder with the sign of the divisor. -/
def modulus? (b remainder : Int) : Option Int :=
  if remainder ≠ 0 ∧ (remainder < 0 ↔ ¬b < 0) then Word.long.hold? (remainder + b)
  else some remainder

def integerModulus? (a b : Int64) : Option (Evaluated Value) :=
  if b = 0 then some (.ok .null)
  else
    match Word.long.remainder? a.toInt b.toInt with
    | none => some (.error (.overflow "integerModulus"))
    | some remainder =>
        (modulus? b.toInt remainder).map fun modulus => .ok (.integer (Int64.ofInt modulus))

variable {a b : Int}

theorem tmod_nonpos (nonpos : a ≤ 0) : a.tmod b ≤ 0 := by
  have opposite : 0 ≤ (-a).tmod b := Int.tmod_nonneg b (by omega)
  rw [Int.neg_tmod] at opposite
  omega

theorem natAbs_tmod_le (a b : Int) : (a.tmod b).natAbs ≤ a.natAbs := by
  rw [Int.natAbs_tmod]
  exact Nat.mod_le _ _

theorem fdiv_eq_tdiv_sub (nonzero : b ≠ 0) :
    a.fdiv b = a.tdiv b - if a.tmod b ≠ 0 ∧ (a < 0 ↔ ¬b < 0) then 1 else 0 := by
  rw [Int.fdiv_eq_tdiv]
  simp only [Int.dvd_iff_tmod_eq_zero]
  rcases Int.lt_or_gt_of_ne nonzero with negative | positive
  · rw [Int.sign_eq_neg_one_of_neg negative]
    split_ifs <;> omega
  · rw [Int.sign_eq_one_of_pos positive]
    split_ifs <;> omega

theorem fmod_eq_tmod_add :
    a.fmod b = a.tmod b + if a.tmod b ≠ 0 ∧ (a.tmod b < 0 ↔ ¬b < 0) then b else 0 := by
  rw [Int.fmod_eq_tmod]
  simp only [Int.dvd_iff_tmod_eq_zero]
  rcases Int.lt_or_le a 0 with negative | nonneg
  · have nonpos : a.tmod b ≤ 0 := tmod_nonpos (Int.le_of_lt negative)
    split_ifs <;> omega
  · have nonneg : 0 ≤ a.tmod b := Int.tmod_nonneg b nonneg
    split_ifs <;> omega

/-- A quotient is at most as far from zero as its dividend, so only one is too great. -/
theorem eq_least_of_not_holds (dividend : Word.long.Holds a)
    (overflows : ¬Word.long.Holds (a.tdiv b)) :
    a = Integer.least ∧ a.tdiv b = -Integer.least := by
  have magnitude := Int.natAbs_tdiv_le_natAbs a b
  simp only [Word.Holds, Word.long, Integer.least, Integer.greatest] at dividend overflows ⊢
  omega

/-- The quotient that is too great for a word is exact. -/
theorem tmod_eq_zero_of_not_holds (dividend : Word.long.Holds a) (nonzero : b ≠ 0)
    (overflows : ¬Word.long.Holds (a.tdiv b)) : a.tmod b = 0 := by
  have parts := Int.mul_tdiv_add_tmod a b
  obtain ⟨least, greatest⟩ := eq_least_of_not_holds dividend overflows
  rw [Integer.least] at least greatest
  have nonpos : a.tmod b ≤ 0 := tmod_nonpos (by omega)
  have small : (a.tmod b).natAbs ≤ a.natAbs := natAbs_tmod_le a b
  rw [greatest] at parts
  omega

theorem holds_fdiv_iff (dividend : Word.long.Holds a) (nonzero : b ≠ 0) :
    Word.long.Holds (a.fdiv b) ↔ Word.long.Holds (a.tdiv b) := by
  by_cases holds : Word.long.Holds (a.tdiv b)
  · simp only [holds, iff_true]
    have magnitude := Int.natAbs_fdiv_le_natAbs a b
    rw [fdiv_eq_tdiv_sub nonzero] at magnitude ⊢
    simp only [Word.Holds, Word.long, Integer.least, Integer.greatest] at dividend holds ⊢
    split_ifs at magnitude ⊢ <;> omega
  · have exact := tmod_eq_zero_of_not_holds dividend nonzero holds
    rw [fdiv_eq_tdiv_sub nonzero, exact]
    simp

theorem floor?_eq_some (dividend : Word.long.Holds a) (nonzero : b ≠ 0)
    (holds : Word.long.Holds (a.tdiv b)) : floor? a b (a.tdiv b) = some (a.fdiv b) := by
  have rounded := (holds_fdiv_iff dividend nonzero).mpr holds
  rw [floor?, Word.remainder?_eq_some nonzero holds, Option.bind_eq_bind, Option.bind_some]
  rw [fdiv_eq_tdiv_sub nonzero] at rounded ⊢
  split_ifs at rounded ⊢
  · exact Word.hold?_eq_some rounded
  · rw [Int.sub_zero]

/-- A remainder and a divisor of the other sign are too close to zero for their sum to
overflow. -/
theorem holds_fmod (dividend : Word.long.Holds a) (divisor : Word.long.Holds b) :
    Word.long.Holds (a.fmod b) := by
  have magnitude := natAbs_tmod_le a b
  have nonpos : a ≤ 0 → a.tmod b ≤ 0 := tmod_nonpos
  rw [fmod_eq_tmod_add]
  simp only [Word.Holds, Word.long, Integer.least, Integer.greatest] at dividend divisor ⊢
  split_ifs <;> omega

theorem modulus?_eq_some (dividend : Word.long.Holds a) (divisor : Word.long.Holds b) :
    modulus? b (a.tmod b) = some (a.fmod b) := by
  have holds := holds_fmod dividend divisor
  rw [fmod_eq_tmod_add] at holds ⊢
  unfold modulus?
  split_ifs at holds ⊢
  · exact Word.hold?_eq_some holds
  · rw [Int.add_zero]

theorem toInt_ne_zero {i : Int64} (nonzero : ¬i = 0) : i.toInt ≠ 0 := by
  intro zero
  exact nonzero (Int64.toInt_inj.mp zero)

theorem integerDivide?_eq_some (a b : Int64) :
    integerDivide? a b = some (integerDivide a b) := by
  unfold integerDivide? integerDivide
  split
  next => rfl
  next nonzero =>
    have dividend := Word.long_holds a
    have divisor := toInt_ne_zero nonzero
    by_cases holds : Word.long.Holds (a.toInt.tdiv b.toInt)
    · have rounded := (holds_fdiv_iff dividend divisor).mpr holds
      rw [Word.quotient?_eq_some divisor holds, Value.ofInteger?_eq_ok rounded]
      simp only [floor?_eq_some dividend divisor holds, Option.map_some]
    · have overflows := mt (holds_fdiv_iff dividend divisor).mp holds
      rw [Word.quotient?_eq_none holds, Value.ofInteger?_eq_overflow overflows]

theorem integerModulus?_eq_some (a b : Int64) :
    integerModulus? a b = some (integerModulus a b) := by
  unfold integerModulus? integerModulus
  split
  next => rfl
  next nonzero =>
    have dividend := Word.long_holds a
    have divisor := toInt_ne_zero nonzero
    by_cases holds : Word.long.Holds (a.toInt.tdiv b.toInt)
    · have rounded := (holds_fdiv_iff dividend divisor).mpr holds
      rw [Word.remainder?_eq_some divisor holds, if_pos (Word.fits_iff.mpr rounded)]
      simp only [modulus?_eq_some dividend (Word.long_holds b), Option.map_some]
      rw [Value.ofInteger?_eq_ok (holds_fmod dividend (Word.long_holds b))]
    · have overflows := mt (holds_fdiv_iff dividend divisor).mp holds
      rw [Word.remainder?_eq_none holds, if_neg (mt Word.fits_iff.mp overflows)]

/-! ## Divisors and multiples -/

/-- Euclid's algorithm on unsigned words. -/
def euclid? (a b : Nat) : Option Nat :=
  if zero : b = 0 then some a
  else
    match found : Word.unsigned.remainder? a b with
    | none => none
    | some remainder =>
        have := Word.toNat_remainder?_lt zero found
        euclid? b remainder.toNat
  termination_by b

/-- The least common multiple of a number and a list of others.  The products are checked:
their overflow makes the inner result `none`. -/
def multiple? (total : Nat) : List Nat → Option (Option Nat)
  | [] => some (some total)
  | value :: values => do
      let divisor ← euclid? total value
      let part ← Word.unsigned.quotient? total divisor
      match Word.unsigned.hold? (part * value) with
      | some next => multiple? next.toNat values
      | none => some none

def gcd? (integers : List Int64) : Option (Evaluated Value) :=
  ((magnitudes integers).foldlM euclid? 0).map fun divisor => Value.ofInteger? "gcd" divisor

/-- Zero is answered before any number is divided. -/
def lcm? (integers : List Int64) : Option (Evaluated Value) :=
  if (magnitudes integers).contains 0 then some (.ok (.integer 0))
  else
    (multiple? 1 (magnitudes integers)).map fun multiple =>
      match multiple with
      | some multiple => Value.ofInteger? "lcm" multiple
      | none => .error (.overflow "lcm")

theorem euclid?_zero (a : Nat) : euclid? a 0 = some a := by
  rw [euclid?, dif_pos rfl]

theorem euclid?_of_ne_zero {a b : Nat} (first : Word.unsigned.Holds a) (nonzero : b ≠ 0) :
    euclid? a b = euclid? b (a % b) := by
  have divides : Word.unsigned.remainder? a b = some ((a % b : Nat) : Int) :=
    Word.remainder?_eq_some (Int.natCast_ne_zero.mpr nonzero)
      (Word.holds_tdiv (by decide) first (Int.natCast_nonneg a) (Int.natCast_nonneg b))
  rw [euclid?, dif_neg nonzero]
  split
  next faults => rw [divides] at faults; cases faults
  next remainder found =>
    rw [divides] at found
    cases found
    rfl

/-- The first number has to fit, and after it only divisors and remainders occur. -/
theorem euclid?_eq_some {a b : Nat} (first : Word.unsigned.Holds a)
    (second : Word.unsigned.Holds b) :
    euclid? a b = some (Nat.gcd a b) := by
  induction b using Nat.strongRecOn generalizing a with
  | ind b induction =>
      by_cases zero : b = 0
      · rw [zero, euclid?_zero, Nat.gcd_zero_right]
      · have smaller : a % b < b := Nat.mod_lt _ (Nat.pos_of_ne_zero zero)
        have holds : Word.unsigned.Holds ((a % b : Nat) : Int) := by
          simp only [Word.Holds, Word.unsigned] at second ⊢
          omega
        rw [euclid?_of_ne_zero first zero, induction _ smaller second holds, Nat.gcd_comm a b,
          Nat.gcd_rec b a, Nat.gcd_comm]

theorem holds_magnitude {integers : List Int64} {value : Nat}
    (member : value ∈ magnitudes integers) : Word.unsigned.Holds value := by
  obtain ⟨i, _, rfl⟩ := List.mem_map.mp member
  have holds := Word.long_holds i
  simp only [Word.Holds, Word.long, Word.unsigned, Integer.least, Integer.greatest] at holds ⊢
  omega

theorem holds_gcd {a b : Nat} (first : Word.unsigned.Holds a) (second : Word.unsigned.Holds b) :
    Word.unsigned.Holds (Nat.gcd a b : Nat) := by
  by_cases zero : b = 0
  · rwa [zero, Nat.gcd_zero_right]
  · have le := Nat.gcd_le_right a (Nat.pos_of_ne_zero zero)
    simp only [Word.Holds, Word.unsigned] at second ⊢
    omega

theorem foldlM_euclid?_eq_some {total : Nat} {values : List Nat} (first : Word.unsigned.Holds total)
    (others : ∀ value ∈ values, Word.unsigned.Holds value) :
    values.foldlM euclid? total = some (values.foldl Nat.gcd total) := by
  induction values generalizing total with
  | nil => rfl
  | cons value values induction =>
      obtain ⟨second, rest⟩ := List.forall_mem_cons.mp others
      rw [List.foldlM_cons, euclid?_eq_some first second, List.foldl_cons]
      exact induction (holds_gcd first second) rest

theorem gcd?_eq_some (integers : List Int64) : gcd? integers = some (gcd integers) := by
  rw [gcd?, foldlM_euclid?_eq_some (by decide) fun _ => holds_magnitude]
  rfl

theorem le_foldl_lcm {total : Nat} {values : List Nat} (positive : 0 < total)
    (others : ∀ value ∈ values, 0 < value) : total ≤ values.foldl Nat.lcm total := by
  induction values generalizing total with
  | nil => exact Nat.le_refl total
  | cons value values induction =>
      obtain ⟨second, rest⟩ := List.forall_mem_cons.mp others
      have multiple : 0 < Nat.lcm total value := Nat.lcm_pos positive second
      exact Nat.le_trans (Nat.le_of_dvd multiple (Nat.dvd_lcm_left total value))
        (induction multiple rest)

/-- The quotient by the greatest common divisor is exact. -/
theorem multiple?_cons {total value : Nat} (values : List Nat)
    (first : Word.unsigned.Holds total) (second : Word.unsigned.Holds value)
    (positive : 0 < total) :
    multiple? total (value :: values) =
      match Word.unsigned.hold? (Nat.lcm total value : Nat) with
      | some next => multiple? next.toNat values
      | none => some none := by
  have divisor : (Nat.gcd total value : Int) ≠ 0 :=
    Int.natCast_ne_zero.mpr (Nat.ne_of_gt (Nat.gcd_pos_of_pos_left value positive))
  have quotient : Word.unsigned.quotient? total (Nat.gcd total value : Nat) =
      some ((total / Nat.gcd total value : Nat) : Int) :=
    Word.quotient?_eq_some divisor
      (Word.holds_tdiv (by decide) first (Int.natCast_nonneg _) (Int.natCast_nonneg _))
  have product : total / Nat.gcd total value * value = Nat.lcm total value :=
    Nat.div_mul_right_comm (Nat.gcd_dvd_left total value) value
  simp only [multiple?, euclid?_eq_some first second, quotient, Option.bind_eq_bind,
    Option.bind_some, ← Int.natCast_mul, product]

/-- A partial multiple that is too great makes the whole multiple too great. -/
theorem multiple?_eq_some {total : Nat} {values : List Nat} (first : Word.unsigned.Holds total)
    (positive : 0 < total)
    (others : ∀ value ∈ values, Word.unsigned.Holds value ∧ 0 < value) :
    multiple? total values =
      some ((Word.unsigned.hold? (values.foldl Nat.lcm total : Nat)).map Int.toNat) := by
  induction values generalizing total with
  | nil => rw [List.foldl_nil, Word.hold?_eq_some first]; rfl
  | cons value values induction =>
      obtain ⟨⟨second, positiveSecond⟩, rest⟩ := List.forall_mem_cons.mp others
      have multiple : 0 < Nat.lcm total value := Nat.lcm_pos positive positiveSecond
      rw [multiple?_cons values first second positive, List.foldl_cons]
      by_cases holds : Word.unsigned.Holds (Nat.lcm total value : Nat)
      · rw [Word.hold?_eq_some holds]
        exact induction holds multiple rest
      · have grows := le_foldl_lcm multiple fun value member => (rest value member).2
        have overflows : ¬Word.unsigned.Holds
            (values.foldl Nat.lcm (Nat.lcm total value) : Nat) := by
          simp only [Word.Holds, Word.unsigned] at holds ⊢
          omega
        rw [Word.hold?_eq_none holds, Word.hold?_eq_none overflows]
        rfl

theorem foldl_lcm_zero (values : List Nat) : values.foldl Nat.lcm 0 = 0 := by
  induction values with
  | nil => rfl
  | cons value values induction => rwa [List.foldl_cons, Nat.lcm_zero_left]

theorem foldl_lcm_eq_zero {total : Nat} {values : List Nat} (zero : 0 ∈ values) :
    values.foldl Nat.lcm total = 0 := by
  induction values generalizing total with
  | nil => cases zero
  | cons value values induction =>
      rw [List.foldl_cons]
      rcases List.mem_cons.mp zero with rfl | later
      · rw [Nat.lcm_zero_right, foldl_lcm_zero]
      · exact induction later

theorem lcm?_eq_some (integers : List Int64) : lcm? integers = some (lcm integers) := by
  unfold lcm? lcm
  split
  next zero =>
    rw [foldl_lcm_eq_zero (List.contains_iff_mem.mp zero)]
    rfl
  next nonzero =>
    have bounds : ∀ value ∈ magnitudes integers, Word.unsigned.Holds value ∧ 0 < value := by
      intro value member
      refine ⟨holds_magnitude member, Nat.pos_of_ne_zero fun zero => nonzero ?_⟩
      exact List.contains_iff_mem.mpr (zero ▸ member)
    rw [multiple?_eq_some (by decide) (by decide) bounds, Option.map_some]
    by_cases holds : Word.unsigned.Holds ((magnitudes integers).foldl Nat.lcm 1 : Nat)
    · rw [Word.hold?_eq_some holds]
      rfl
    · have overflows : ¬Word.long.Holds ((magnitudes integers).foldl Nat.lcm 1 : Nat) := by
        simp only [Word.Holds, Word.long, Word.unsigned, Integer.least, Integer.greatest] at holds ⊢
        omega
      rw [Word.hold?_eq_none holds, Value.ofInteger?_eq_overflow overflows]
      rfl

end Arithmetic

/-! ## Counts -/

namespace Truth

def anyN? (least most : Int) (operands : List Truth) : Option Truth :=
  (Word.sumOfCounts? operands.length (trueCount operands) (unknownCount operands)).map
    fun (greatest : Nat) =>
      if most < trueCount operands || greatest < least then some false
      else if least ≤ trueCount operands && greatest ≤ most then some true
      else none

/-- No operand is both true and unknown. -/
theorem trueCount_add_unknownCount_le (operands : List Truth) :
    trueCount operands + unknownCount operands ≤ operands.length := by
  induction operands with
  | nil => exact Nat.le_refl 0
  | cons operand operands induction =>
      simp only [trueCount, unknownCount] at induction ⊢
      cases operand with
      | none => simp; omega
      | some truth => cases truth <;> simp <;> omega

theorem anyN?_eq_some (least most : Int) (operands : List Truth) :
    anyN? least most operands = some (anyN least most operands) := by
  unfold anyN? Word.sumOfCounts? anyN
  rw [if_pos (trueCount_add_unknownCount_le operands), Option.map_some]
  simp only [Int.natCast_add]

end Truth

end Assessment
