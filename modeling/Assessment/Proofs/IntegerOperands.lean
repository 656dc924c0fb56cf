import Assessment.Proofs.FixedResult
import Assessment.Proofs.MachineArithmetic

/-!
# Integers as operands

Operators on integers take single integers, and some of them containers of integers as
well.  Such operands pass the check of the signature and none of them is NULL, so an
operator always computes with the integers that they hold.
-/

namespace Assessment

open Evaluation (Gives)

theorem Value.exists_ofInteger?_eq_ok {n : Int} (operator : String) (holds : Word.long.Holds n) :
    ∃ i : Int64, i.toInt = n ∧ ofInteger? operator n = .ok (.integer i) := by
  obtain ⟨i, rfl⟩ := Word.exists_of_holds holds
  exact ⟨i, rfl, by rw [ofInteger?, Integer.ofInt?_toInt]⟩

/-! ## Values that hold integers -/

namespace Value

/-- The value is a single integer or a container of integers that is not empty, and these
are its integers in order. -/
inductive HoldsIntegers : Value → List Int64 → Prop where
  | single (i : Int64) : HoldsIntegers (.integer i) [i]
  | multiple (integers : List Int64) (filled : integers ≠ []) :
      HoldsIntegers (.multiple ⟨.integer, integers.map .integer⟩) integers
  | ordered (integers : List Int64) (filled : integers ≠ []) :
      HoldsIntegers (.ordered ⟨.integer, integers.map .integer⟩) integers

namespace HoldsIntegers

variable {value : Value} {integers : List Int64} {operands : List Value}
  {groups : List (List Int64)}

theorem notNull (holds : value.HoldsIntegers integers) : value.isNull = false := by
  cases holds with
  | single i => rfl
  | multiple _ filled => simpa [isNull, Container.isEmpty] using filled
  | ordered _ filled => simpa [isNull, Container.isEmpty] using filled

theorem admits (holds : value.HoldsIntegers integers) :
    Accepts.Admits ⟨Accepts.scalars, [.integer]⟩ value := by
  cases holds <;> rintro cardinality ⟨rfl⟩ <;>
    exact ⟨by decide, .inr ⟨.integer, by decide, rfl⟩⟩

theorem filterMap_scalars (holds : value.HoldsIntegers integers) :
    value.scalars.filterMap Scalar.integer? = integers := by
  have each (integers : List Int64) :
      (integers.map Scalar.integer).filterMap Scalar.integer? = integers := by
    simp [List.filterMap_map, Function.comp_def, Scalar.integer?]
  cases holds with
  | single i => exact each [i]
  | multiple => exact each integers
  | ordered => exact each integers

/-- The integers of a list of operands are those of one after the other. -/
theorem integers_eq_flatten (holds : List.Forall₂ HoldsIntegers operands groups) :
    Operator.integers operands = groups.flatten := by
  unfold Operator.integers
  induction holds with
  | nil => rfl
  | cons first _ induction =>
      rw [List.flatMap_cons, List.filterMap_append, first.filterMap_scalars, induction,
        List.flatten_cons]

end HoldsIntegers

theorem admits_integer {types : List BaseType} (listed : .integer ∈ types) (i : Int64) :
    Accepts.Admits ⟨[.single], types⟩ (.integer i) := by
  rintro cardinality ⟨rfl⟩
  exact ⟨List.mem_singleton_self _, .inr ⟨.integer, listed, rfl⟩⟩

theorem mapM_integer? (integers : List Int64) :
    (integers.map Value.integer).mapM Value.integer? = some integers := by
  refine mapM_eq_some_iff.mpr ?_
  rw [List.forall₂_map_left_iff]
  exact List.forall₂_same.mpr fun i _ => rfl

end Value

/-! ## Results that are integers -/

namespace Operator

variable {context : Context} {operator : Operator} {operands : List Value} {n : Int}
  {fits : Prop}

/-- Operators of a fixed number of single operands compute with integers if these are
listed. -/
theorem apply_integers {types : List BaseType} (context : Context) (integers : List Int64)
    (different : operator ≠ .random) (listed : .integer ∈ types)
    (signature : operator.signature = .exactly integers.length [⟨[.single], types⟩]) :
    Gives (operator.apply context (integers.map .integer))
      (operator.compute context.store context.settings.maxContainerSize
        (integers.map .integer)) := by
  refine apply_gives context different ?_ ?_
  · rw [signature]
    refine Signature.admits_exactly (List.length_map _) ?_
    simp [Value.admits_integer listed]
  · simp [Value.integer, Value.isNull]

/-- The operator gives the integer `n` if that fits, and fails with an overflow if it does
not. -/
structure GivesInteger (context : Context) (operator : Operator) (operands : List Value) (n : Int)
    (fits : Prop) : Prop where
  integer : fits → ∃ i : Int64, i.toInt = n ∧
    Gives (operator.apply context operands) (.ok (.integer i))
  overflow : ¬fits → Gives (operator.apply context operands) (.error (.overflow operator.name))

theorem givesInteger_of_ofInteger?
    (gives : Gives (operator.apply context operands) (Value.ofInteger? operator.name n))
    (fits_iff : fits ↔ Word.long.Holds n) : GivesInteger context operator operands n fits := by
  constructor
  · intro holds
    obtain ⟨i, exact, held⟩ := Value.exists_ofInteger?_eq_ok operator.name (fits_iff.mp holds)
    rw [held] at gives
    exact ⟨i, exact, gives⟩
  · intro exceeds
    rwa [Value.ofInteger?_eq_overflow (mt fits_iff.mpr exceeds)] at gives

end Operator

end Assessment
