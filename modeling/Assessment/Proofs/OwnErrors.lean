import Assessment.Evaluation

/-!
# Errors that functions have of their own

Functions of values, attributes and variables fail for reasons of their own: a sum
overflows, an attribute has a wrong value, a variable is unknown.  Two errors are never
theirs.  A missing operand is found where operands are taken apart, and a node that is
too deep where an expression is evaluated.
-/

namespace Assessment

/-- Neither an operand was missing nor was a node too deep. -/
@[simp] def EvalError.isOwn : EvalError → Bool
  | .misapplied _ => false
  | .depthExceeded _ => false
  | _ => true

namespace Evaluated

variable {α β : Type}

/-- If the result is an error, it is one that the function has of its own. -/
def OwnErrors (result : Evaluated α) : Prop :=
  ∀ error, result = .error error → error.isOwn = true

@[simp] theorem ownErrors_ok (value : α) : OwnErrors (.ok value) :=
  nofun

@[simp] theorem ownErrors_pure (value : α) : OwnErrors (pure value) :=
  nofun

@[simp] theorem ownErrors_error_iff {error : EvalError} :
    OwnErrors (.error error : Evaluated α) ↔ error.isOwn = true := by
  simp [OwnErrors]

theorem ownErrors_bind {first : Evaluated α} {next : α → Evaluated β} (own : OwnErrors first)
    (ownNext : ∀ value, OwnErrors (next value)) : OwnErrors (first >>= next) := by
  cases first with
  | ok value => exact ownNext value
  | error error => exact ownErrors_error_iff.mpr (own error rfl)

end Evaluated

open Evaluated

/-! ## Attributes and variables -/

theorem Attribute.ownErrors_resolve {α : Type} {view : Scalar → Option α}
    {wanted operator name : String} {store : Store} (given : Attribute α) :
    OwnErrors (given.resolve view wanted operator name store) := by
  unfold resolve
  split
  next => simp
  next =>
    split
    next => simp
    next => split <;> simp

theorem Context.ownErrors_lookUp (context : Context) (identifier : String) :
    OwnErrors (context.lookUp identifier) := by
  unfold lookUp
  split <;> simp

namespace Variable

theorem ownErrors_mappedScore (v : Variable) : OwnErrors v.mappedScore := by
  unfold mappedScore
  split
  next => simp
  next => split <;> simp

theorem ownErrors_areaScore (v : Variable) : OwnErrors v.areaScore := by
  unfold areaScore
  split
  next => simp
  next => split <;> simp

end Variable

/-! ## Signatures -/

namespace Signature

variable {operator : String} {signature : Signature}

theorem ownErrors_checkCount {count : Nat} :
    OwnErrors (checkCount operator signature count) := by
  unfold checkCount
  split
  next => simp
  next =>
    split
    next => split <;> simp
    next => simp

theorem ownErrors_checkOperand {position : Nat} {operand : Value} :
    OwnErrors (checkOperand operator signature position operand) := by
  unfold checkOperand
  repeat' split
  all_goals simp

theorem ownErrors_checkFrom {position : Nat} {operands : List Value} :
    OwnErrors (checkFrom operator signature position operands) := by
  induction operands generalizing position with
  | nil => simp [checkFrom]
  | cons operand operands induction =>
      exact ownErrors_bind ownErrors_checkOperand fun _ => induction

theorem ownErrors_check {operands : List Value} :
    OwnErrors (signature.check operator operands) :=
  ownErrors_bind ownErrors_checkCount fun _ => ownErrors_checkFrom

end Signature

/-! ## Arithmetic, comparisons and collections -/

theorem Value.ownErrors_ofInteger? {operator : String} {n : Int} :
    OwnErrors (ofInteger? operator n) := by
  unfold ofInteger?
  split <;> simp

namespace Arithmetic

theorem ownErrors_foldIntegers {operator : String} {combine : Int → Int → Int}
    {start : Int64} {integers : List Int64} :
    OwnErrors (foldIntegers operator combine start integers) := by
  unfold foldIntegers
  split <;> simp

theorem ownErrors_integerDivide {a b : Int64} : OwnErrors (integerDivide a b) := by
  unfold integerDivide
  split
  next => simp
  next => exact Value.ownErrors_ofInteger?

theorem ownErrors_integerModulus {a b : Int64} : OwnErrors (integerModulus a b) := by
  unfold integerModulus
  split
  next => simp
  next =>
    split
    next => exact Value.ownErrors_ofInteger?
    next => simp

theorem ownErrors_roundNumber {operator : String} {mode : RoundingMode} {figures : Int64}
    {x : Float} : OwnErrors (roundNumber operator mode figures x) := by
  unfold roundNumber
  split <;> simp

theorem ownErrors_roundTo {mode : RoundingMode} {figures : Int64} {x : Float} :
    OwnErrors (roundTo mode figures x) := by
  refine ownErrors_bind ownErrors_roundNumber fun rounded => ?_
  cases rounded <;> simp

end Arithmetic

namespace Comparison

theorem ownErrors_identical {a b : Value} : OwnErrors (identical a b) := by
  unfold identical
  split <;> simp

theorem ownErrors_equal {store : Store} {equality : Equality} {a b : Float} :
    OwnErrors (equal store equality a b) := by
  unfold equal
  split
  next => simp
  next below above _ =>
    exact ownErrors_bind below.ownErrors_resolve fun _ =>
      ownErrors_bind above.ownErrors_resolve fun _ => ownErrors_pure _

theorem ownErrors_equalRounded {mode : RoundingMode} {figures : Int64} {a b : Float} :
    OwnErrors (equalRounded mode figures a b) := by
  refine ownErrors_bind Arithmetic.ownErrors_roundNumber fun a => ?_
  refine ownErrors_bind Arithmetic.ownErrors_roundNumber fun b => ?_
  cases a <;> cases b <;> simp

end Comparison

namespace Collection

theorem ownErrors_gather {operator : String} {operands : List Value} :
    OwnErrors (gather operator operands) := by
  unfold gather
  split
  next => simp
  next => split <;> simp

theorem ownErrors_collect {operator : String} {wrap : Container → Value}
    {operands : List Value} : OwnErrors (collect operator wrap operands) := by
  refine ownErrors_bind ownErrors_gather fun gathered => ?_
  cases gathered <;> simp

theorem ownErrors_index {container : Container} {position : Int64} :
    OwnErrors (index container position) := by
  unfold index
  split <;> simp

theorem ownErrors_member {scalar : Scalar} {operand : Value} :
    OwnErrors (member scalar operand) := by
  unfold member incomparable
  split <;> simp

theorem ownErrors_contains {a b : Value} : OwnErrors (contains a b) := by
  unfold contains incomparable
  split
  next => split <;> simp
  next => simp

theorem ownErrors_replicate {limit : Nat} {count : Int64} {operands : List Value} :
    OwnErrors (replicate limit count operands) := by
  unfold replicate
  split
  next => simp
  next =>
    refine ownErrors_bind ownErrors_gather fun gathered => ?_
    cases gathered with
    | none => simp
    | some once =>
        dsimp only
        split <;> simp

end Collection

theorem Operator.ownErrors_matchPattern {operator : Operator} {pattern text : String} :
    OwnErrors (operator.matchPattern pattern text) := by
  unfold matchPattern
  split <;> simp

/-! ## Operands of custom operators -/

namespace Extension

variable {name : String}

theorem ownErrors_expectCount {count : Nat} {operands : List Value} :
    OwnErrors (expectCount name count operands) := by
  unfold expectCount
  split
  next => simp
  next => split <;> simp

theorem ownErrors_expectString {position : Nat} {operand : Value} :
    OwnErrors (expectString name position operand) := by
  unfold expectString
  split <;> simp

theorem ownErrors_expectStrings {position : Nat} {operand : Value} :
    OwnErrors (expectStrings name position operand) := by
  unfold expectStrings
  split
  next => simp
  next => split <;> simp

end Extension

end Assessment
