import Assessment.Proofs.IntegerOperands
import Mathlib.Algebra.BigOperators.Ring.List
import Mathlib.Algebra.Order.BigOperators.Group.List
import Mathlib.Algebra.Order.Ring.Int
import Mathlib.Data.List.Infix

/-!
# Sums and products of integers

Sums and products are formed from the left, and each partial result has to fit into 64
bits.  So the result is exact if all of them fit, and otherwise an overflow, even if the
whole would fit.  Another order of the operands has other partial results, but it never
gives another integer.
-/

namespace Assessment

theorem Integer.ofInt?_eq_some_iff {n : Int} {i : Int64} : ofInt? n = some i ↔ i.toInt = n := by
  constructor
  · exact toInt_ofInt?_eq
  · rintro rfl
    exact ofInt?_toInt i

theorem Integer.ofInt?_eq_none {n : Int} (overflows : ¬Word.long.Holds n) : ofInt? n = none :=
  if_neg (mt Word.fits_iff.mp overflows)

namespace Arithmetic

/-- Integers are combined to the end exactly if a word holds what each first part of them
gives, and then the result is exact. -/
theorem foldlM_ofInt?_eq_some_iff {combine : Int → Int → Int} {integers : List Int64}
    {start result : Int64} :
    integers.foldlM (fun total i => Integer.ofInt? (combine total.toInt i.toInt)) start =
        some result ↔
      (∀ part, part <+: integers →
        Word.long.Holds ((part.map Int64.toInt).foldl combine start.toInt)) ∧
      result.toInt = (integers.map Int64.toInt).foldl combine start.toInt := by
  induction integers generalizing start with
  | nil =>
      have holds := Word.long_holds start
      simp [holds, eq_comm, Int64.toInt_inj]
  | cons i integers induction =>
      rw [List.foldlM_cons, List.map_cons, List.foldl_cons]
      by_cases holds : Word.long.Holds (combine start.toInt i.toInt)
      · obtain ⟨next, exact⟩ := Word.exists_of_holds holds
        have start := Word.long_holds start
        rw [Integer.ofInt?_eq_some_iff.mpr exact, Option.bind_eq_bind, Option.bind_some, induction,
          exact]
        refine and_congr_left fun _ => ?_
        -- a first part is empty, where the start is held, or begins with the first integer
        constructor
        · rintro each part isPart
          rcases List.prefix_cons_iff.mp isPart with rfl | ⟨rest, rfl, isRest⟩
          · exact start
          · exact each rest isRest
        · intro each part isPart
          exact each (i :: part) (List.cons_prefix_cons.mpr ⟨rfl, isPart⟩)
      · rw [Integer.ofInt?_eq_none holds]
        simp only [Option.bind_eq_bind, Option.bind_none, reduceCtorEq, false_iff]
        rintro ⟨each, _⟩
        exact holds (each [i] (by simp))

end Arithmetic

/-- What integers add up or multiply to. -/
inductive Total where
  | sum
  | product
  deriving DecidableEq, Repr

namespace Total

def operator : Total → Operator
  | .sum => .sum
  | .product => .product

def combine : Total → Int → Int → Int
  | .sum => (· + ·)
  | .product => (· * ·)

def start : Total → Int64
  | .sum => 0
  | .product => 1

/-- The sum or product in the unbounded integers. -/
def exact : Total → List Int64 → Int
  | .sum, integers => (integers.map Int64.toInt).sum
  | .product, integers => (integers.map Int64.toInt).prod

/-- A word holds the total of every first part of the integers. -/
def HoldsThroughout (total : Total) (integers : List Int64) : Prop :=
  ∀ part, part <+: integers → Word.long.Holds (total.exact part)

instance (total : Total) (integers : List Int64) : Decidable (total.HoldsThroughout integers) :=
  decidable_of_iff (∀ part ∈ integers.inits, Word.long.Holds (total.exact part))
    (by simp only [List.mem_inits, HoldsThroughout])

/-- No integer takes the total back towards zero, and a product does not end in the least
word. -/
def Steady : Total → List Int64 → Prop
  | .sum, integers => (∀ i ∈ integers, 0 ≤ i.toInt) ∨ ∀ i ∈ integers, i.toInt ≤ 0
  | .product, integers => 0 ∉ integers ∧ exact .product integers ≠ Integer.least

variable {total : Total} {integers permuted : List Int64} {context : Context}

/-! ## Computing totals -/

theorem exact_eq_foldl :
    total.exact integers = (integers.map Int64.toInt).foldl total.combine total.start.toInt := by
  cases total with
  | sum => exact List.sum_eq_foldl
  | product => exact List.prod_eq_foldl

theorem foldlM_eq_some_iff {result : Int64} :
    integers.foldlM (fun sofar i => Integer.ofInt? (total.combine sofar.toInt i.toInt))
        total.start = some result ↔
      total.HoldsThroughout integers ∧ result.toInt = total.exact integers := by
  rw [Arithmetic.foldlM_ofInt?_eq_some_iff]
  simp only [HoldsThroughout, exact_eq_foldl]

theorem foldIntegers_eq_ok {operator : String} {result : Int64}
    (holds : total.HoldsThroughout integers) (same : result.toInt = total.exact integers) :
    Arithmetic.foldIntegers operator total.combine total.start integers =
      .ok (.integer result) := by
  rw [Arithmetic.foldIntegers, foldlM_eq_some_iff.mpr ⟨holds, same⟩]

theorem foldIntegers_eq_overflow {operator : String}
    (overflows : ¬total.HoldsThroughout integers) :
    Arithmetic.foldIntegers operator total.combine total.start integers =
      .error (.overflow operator) := by
  unfold Arithmetic.foldIntegers
  split
  next result found => exact absurd (foldlM_eq_some_iff.mp found).1 overflows
  next => rfl

theorem apply_gives (total : Total) (context : Context) (some : integers ≠ []) :
    Evaluation.Gives (total.operator.apply context (integers.map .integer))
      (Arithmetic.foldIntegers total.operator.name total.combine total.start integers) := by
  have admits : (Signature.atLeast 1 [⟨[.single], Accepts.numeric⟩]).Admits
      (integers.map .integer) := by
    refine Signature.admits_atLeast ?_ ?_
    · simpa [Nat.one_le_iff_ne_zero] using some
    · simp [Value.admits_integer, Accepts.numeric]
  have filled : ∀ operand ∈ integers.map Value.integer, operand.isNull = false := by
    simp [Value.integer, Value.isNull]
  cases total with
  | sum =>
      have different : Operator.sum ≠ .random := by simp
      have gives := Operator.apply_gives context different admits filled
      rwa [Operator.compute, Operator.numeric, Value.mapM_integer?] at gives
  | product =>
      have different : Operator.product ≠ .random := by simp
      have gives := Operator.apply_gives context different admits filled
      rwa [Operator.compute, Operator.numeric, Value.mapM_integer?] at gives

theorem givesInteger (total : Total) (context : Context) (some : integers ≠ []) :
    Operator.GivesInteger context total.operator (integers.map .integer) (total.exact integers)
      (total.HoldsThroughout integers) := by
  have gives := apply_gives total context some
  constructor
  · intro holds
    obtain ⟨i, same⟩ := Word.exists_of_holds (holds integers List.prefix_rfl)
    rw [foldIntegers_eq_ok holds same] at gives
    exact ⟨i, same, gives⟩
  · intro overflows
    rwa [foldIntegers_eq_overflow overflows] at gives

/-! ## Orders of the operands -/

theorem exact_perm (perm : permuted.Perm integers) :
    total.exact permuted = total.exact integers := by
  cases total with
  | sum => exact (perm.map Int64.toInt).sum_eq
  | product => exact (perm.map Int64.toInt).prod_eq

theorem Steady.perm (steady : total.Steady integers) (perm : permuted.Perm integers) :
    total.Steady permuted := by
  cases total with
  | sum =>
      refine steady.imp (fun nonneg i member => ?_) (fun nonpos i member => ?_)
      · exact nonneg i (perm.mem_iff.mp member)
      · exact nonpos i (perm.mem_iff.mp member)
  | product =>
      refine ⟨fun zero => steady.1 (perm.mem_iff.mp zero), ?_⟩
      rw [exact_perm perm]
      exact steady.2

theorem exact_product_ne_zero (nonzero : 0 ∉ integers) : Total.product.exact integers ≠ 0 := by
  rw [exact, Ne, List.prod_eq_zero_iff, List.mem_map]
  rintro ⟨i, member, same⟩
  obtain rfl : i = 0 := Int64.toInt_inj.mp same
  exact nonzero member

/-- If the whole fits, then so does every part of a steady total. -/
theorem Steady.holdsThroughout (steady : total.Steady integers)
    (whole : Word.long.Holds (total.exact integers)) : total.HoldsThroughout integers := by
  rintro part ⟨rest, rfl⟩
  simp only [Word.Holds, Word.long, Integer.least, Integer.greatest] at whole ⊢
  cases total with
  | sum =>
      simp only [exact, List.map_append, List.sum_append] at whole ⊢
      rcases steady with nonneg | nonpos
      · have first : 0 ≤ (part.map Int64.toInt).sum := List.sum_nonneg (by simp_all)
        have second : 0 ≤ (rest.map Int64.toInt).sum := List.sum_nonneg (by simp_all)
        omega
      · have first := List.sum_le_card_nsmul (part.map Int64.toInt) 0 (by simp_all)
        have second := List.sum_le_card_nsmul (rest.map Int64.toInt) 0 (by simp_all)
        rw [nsmul_zero] at first second
        omega
  | product =>
      obtain ⟨nonzero, notLeast⟩ := steady
      have positive : 0 < (Total.product.exact rest).natAbs :=
        Int.natAbs_pos.mpr
          (exact_product_ne_zero fun zero => nonzero (List.mem_append_right _ zero))
      have split : Total.product.exact (part ++ rest) =
          Total.product.exact part * Total.product.exact rest := by
        simp only [exact, List.map_append, List.prod_append]
      -- other factors than zero take no product towards zero
      have grows : (Total.product.exact part).natAbs ≤
          (Total.product.exact (part ++ rest)).natAbs := by
        rw [split, Int.natAbs_mul]
        exact Nat.le_mul_of_pos_right _ positive
      rw [Integer.least] at notLeast
      omega

/-- Sums and products of integers are exact if all partial results fit into 64 bits, and
overflow otherwise.  In another order they overflow, if a partial result of that order does
not fit, or give the same integer.  The order does not matter, and only a whole that does
not fit overflows, for sums of integers of one sign and for products without a zero that
are not the least word. -/
theorem apply_partials (total : Total) (context : Context) (some : integers ≠ []) :
    Operator.GivesInteger context total.operator (integers.map .integer) (total.exact integers)
        (total.HoldsThroughout integers) ∧
      (∀ permuted : List Int64, permuted.Perm integers →
        Operator.GivesInteger context total.operator (permuted.map .integer)
          (total.exact integers) (total.HoldsThroughout permuted)) ∧
      (total.Steady integers → ∀ permuted : List Int64, permuted.Perm integers →
        Operator.GivesInteger context total.operator (permuted.map .integer)
          (total.exact integers) (Word.long.Holds (total.exact integers))) := by
  have ordered {permuted : List Int64} (perm : permuted.Perm integers) :
      Operator.GivesInteger context total.operator (permuted.map .integer)
        (total.exact integers) (total.HoldsThroughout permuted) := by
    rw [← exact_perm perm]
    exact givesInteger total context fun none => some (List.nil_perm.mp (none ▸ perm))
  refine ⟨givesInteger total context some, fun _ => ordered, fun steady permuted perm => ?_⟩
  have fits : total.HoldsThroughout permuted ↔ Word.long.Holds (total.exact integers) := by
    rw [← exact_perm perm]
    exact ⟨fun holds => holds permuted List.prefix_rfl, (steady.perm perm).holdsThroughout⟩
  rw [← propext fits]
  exact ordered perm

/-- A sum that reaches the greatest word from below, with the operands in two orders. -/
theorem apply_partials_greatest :
    let integers : List Int64 := [-5, Int64.maxValue, 5]
    let context : Context := ⟨⟨.default, .standard⟩, ⟨[]⟩⟩
    integers ≠ [] ∧ Total.sum.HoldsThroughout integers ∧
      (∃ i : Int64, i.toInt = Total.sum.exact integers ∧
        Evaluation.Gives (Operator.sum.apply context (integers.map .integer))
          (.ok (.integer i))) ∧
      [Int64.maxValue, 5, -5].Perm integers ∧
      ¬Total.sum.HoldsThroughout [Int64.maxValue, 5, -5] ∧
      Evaluation.Gives
        (Operator.sum.apply context ([Int64.maxValue, 5, -5].map .integer))
        (.error (.overflow "sum")) := by
  intro integers context
  have holds : Total.sum.HoldsThroughout integers := by decide
  have perm : [Int64.maxValue, 5, -5].Perm integers := by decide
  have overflows : ¬Total.sum.HoldsThroughout [Int64.maxValue, 5, -5] := by decide
  obtain ⟨exact, permuted, _⟩ := apply_partials .sum context (List.cons_ne_nil _ _)
  exact ⟨List.cons_ne_nil _ _, holds, exact.integer holds, perm, overflows,
    (permuted _ perm).overflow overflows⟩

/-- Although the whole fits, a partial sum or product that does not is an overflow, which
another order of the operands avoids. -/
theorem apply_overflows_between :
    let context : Context := ⟨⟨.default, .standard⟩, ⟨[]⟩⟩
    let addends : List Int64 := [Int64.maxValue, 1, -1]
    let factors : List Int64 := [Int64.maxValue, 2, 0]
    Word.long.Holds (Total.sum.exact addends) ∧
      Evaluation.Gives (Operator.sum.apply context (addends.map .integer))
        (.error (.overflow "sum")) ∧
      Evaluation.Gives (Operator.sum.apply context (addends.reverse.map .integer))
        (.ok (.integer Int64.maxValue)) ∧
      Word.long.Holds (Total.product.exact factors) ∧
      Evaluation.Gives (Operator.product.apply context (factors.map .integer))
        (.error (.overflow "product")) ∧
      Evaluation.Gives (Operator.product.apply context (factors.reverse.map .integer))
        (.ok (.integer 0)) := by
  refine ⟨by decide, fun _ => rfl, fun _ => rfl, by decide, fun _ => rfl, fun _ => rfl⟩

end Total

end Assessment
