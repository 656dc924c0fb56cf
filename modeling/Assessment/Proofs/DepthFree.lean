import Assessment.Proofs.Coverage
import Assessment.Proofs.ReadFrame
import Assessment.Proofs.Run

/-!
# Errors of nodes

Operators, custom operators, leaves, attributes and draws have errors of their own, but
none of them complains about depth: only the check of a node's depth does.
-/

namespace Assessment

namespace Evaluated

variable {α β : Type}

/-- Whatever the result is, no node was too deep. -/
def DepthFree (result : Evaluated α) : Prop :=
  ∀ limit, result ≠ .error (.depthExceeded limit)

theorem OwnErrors.depthFree {result : Evaluated α} (own : OwnErrors result) :
    DepthFree result := by
  rintro limit rfl
  cases own _ rfl

theorem depthFree_bind {first : Evaluated α} {next : α → Evaluated β} (free : DepthFree first)
    (freeNext : ∀ value, DepthFree (next value)) : DepthFree (first >>= next) := by
  cases first with
  | ok value => exact freeNext value
  | error error =>
      intro limit same
      cases same
      exact free limit rfl

end Evaluated

open Evaluated

/-! ## Operators -/

namespace Operator

variable {α β : Type} {operator : Operator} {operands : List Value}

theorem depthFree_unary {view : Value → Option α} {run : α → Evaluated Value}
    (free : ∀ operand, DepthFree (run operand)) :
    DepthFree (operator.unary view run operands) := by
  unfold unary
  split
  next =>
    split
    next => exact free _
    next => nofun
  next => nofun

theorem depthFree_binary {leftView : Value → Option α} {rightView : Value → Option β}
    {run : α → β → Evaluated Value} (free : ∀ a b, DepthFree (run a b)) :
    DepthFree (operator.binary leftView rightView run operands) := by
  unfold binary
  split
  next =>
    split
    next => exact free _ _
    next => nofun
  next => nofun

theorem depthFree_numeric {onIntegers : List Int64 → Evaluated Value}
    {onFloats : List Float → Evaluated Value}
    (freeIntegers : ∀ integers, DepthFree (onIntegers integers))
    (freeFloats : ∀ floats, DepthFree (onFloats floats)) :
    DepthFree (operator.numeric onIntegers onFloats operands) := by
  unfold numeric
  split
  next => exact freeIntegers _
  next =>
    split
    next => exact freeFloats _
    next => nofun

end Operator

theorem Collection.depthFree_delete {scalar : Scalar} {operand : Value} :
    DepthFree (Collection.delete scalar operand) := by
  unfold Collection.delete
  split
  next => split <;> nofun
  next => nofun

namespace Operator

variable {operator : Operator} {operands : List Value}

theorem depthFree_difference : DepthFree (operator.difference operands) := by
  refine depthFree_numeric (fun integers => ?_) fun floats => ?_
  · split
    next => exact Value.ownErrors_ofInteger?.depthFree
    next => nofun
  · split <;> nofun

theorem depthFree_applyFunction {function : MathFunction} {scalar : Scalar} :
    DepthFree (operator.applyFunction function scalar) := by
  unfold applyFunction
  split
  next => nofun
  next => split <;> nofun

theorem depthFree_math {function : MathFunction} {store : Store} {limit : Nat} :
    DepthFree ((math function).compute store limit operands) := by
  by_cases two : function = .atan2
  · rw [two]
    exact depthFree_binary fun _ _ => nofun
  · rw [compute_math two]
    exact depthFree_unary fun _ => depthFree_applyFunction

theorem depthFree_compute {store : Store} {limit : Nat} :
    DepthFree (operator.compute store limit operands) := by
  unfold compute
  cases operator with
  | and | or | min | max | random => nofun
  | not | inside | truncate | round | integerToFloat | stats | containerSize | isNull
  | fieldValue =>
      exact depthFree_unary fun _ => nofun
  | stringMatch | substring | compare | compareDurations | divide | power =>
      exact depthFree_binary fun _ _ => nofun
  | anyN least most =>
      exact depthFree_bind least.ownErrors_resolve.depthFree fun _ =>
        depthFree_bind most.ownErrors_resolve.depthFree fun _ => nofun
  | identical => exact depthFree_binary fun _ _ => Comparison.ownErrors_identical.depthFree
  | patternMatch pattern =>
      exact depthFree_bind pattern.ownErrors_resolve.depthFree fun _ =>
        depthFree_unary fun _ => ownErrors_matchPattern.depthFree
  | equal equality => exact depthFree_binary fun _ _ => Comparison.ownErrors_equal.depthFree
  | equalRounded mode figures =>
      exact depthFree_bind figures.ownErrors_resolve.depthFree fun _ =>
        depthFree_binary fun _ _ => Comparison.ownErrors_equalRounded.depthFree
  | sum | product =>
      exact depthFree_numeric (fun _ => Arithmetic.ownErrors_foldIntegers.depthFree)
        fun _ => nofun
  | subtract => exact depthFree_difference
  | integerDivide =>
      exact depthFree_binary fun _ _ => Arithmetic.ownErrors_integerDivide.depthFree
  | integerModulus =>
      exact depthFree_binary fun _ _ => Arithmetic.ownErrors_integerModulus.depthFree
  | roundTo mode figures =>
      exact depthFree_bind figures.ownErrors_resolve.depthFree fun _ =>
        depthFree_unary fun _ => Arithmetic.ownErrors_roundTo.depthFree
  | gcd | lcm => exact Value.ownErrors_ofInteger?.depthFree
  | math function => exact depthFree_math
  | multiple | ordered => exact Collection.ownErrors_collect.depthFree
  | index position =>
      exact depthFree_bind position.ownErrors_resolve.depthFree fun _ =>
        depthFree_unary fun _ => Collection.ownErrors_index.depthFree
  | member => exact depthFree_binary fun _ _ => Collection.ownErrors_member.depthFree
  | delete => exact depthFree_binary fun _ _ => Collection.depthFree_delete
  | contains => exact depthFree_binary fun _ _ => Collection.ownErrors_contains.depthFree
  | replicate count =>
      exact depthFree_bind count.ownErrors_resolve.depthFree fun _ =>
        Collection.ownErrors_replicate.depthFree

end Operator

/-! ## Custom operators -/

namespace Extension

variable {name : String} {operands : List Value}

/-- Whatever the operands are, the custom operator does not complain about depth. -/
def DepthFree (extension : Extension) : Prop :=
  ∀ operands markup, Evaluated.DepthFree (extension operands markup)

theorem depthFree_implode : DepthFree implode := by
  intro operands markup
  refine depthFree_bind ownErrors_expectCount.depthFree fun _ => ?_
  split
  next =>
    split
    next => nofun
    next =>
      exact depthFree_bind ownErrors_expectStrings.depthFree fun _ =>
        depthFree_bind ownErrors_expectString.depthFree fun _ => nofun
  next => nofun

theorem depthFree_explode : DepthFree explode := by
  intro operands markup
  refine depthFree_bind ownErrors_expectCount.depthFree fun _ => ?_
  split
  next =>
    split
    next => nofun
    next =>
      exact depthFree_bind ownErrors_expectString.depthFree fun _ =>
        depthFree_bind ownErrors_expectString.depthFree fun _ => nofun
  next => nofun

theorem depthFree_separate {wrap : Container → Value} : DepthFree (separate name wrap) := by
  intro operands markup
  refine depthFree_bind ownErrors_expectCount.depthFree fun _ => ?_
  split
  next =>
    split
    next => nofun
    next => exact depthFree_bind ownErrors_expectString.depthFree fun _ => nofun
  next => nofun

end Extension

theorem Registry.depthFree_standard :
    ∀ name extension, standard.get? name = some extension → extension.DepthFree :=
  forall_standard Extension.depthFree_implode Extension.depthFree_explode
    fun _ _ => Extension.depthFree_separate

theorem CustomOperator.depthFree_apply {context : Context}
    (known : context.registry = .standard) {operator : CustomOperator} {operands : List Value} :
    DepthFree (operator.apply context operands) := by
  unfold apply
  split
  next extension found =>
    obtain ⟨name, named⟩ := Registry.exists_name_of_resolve? found
    rw [known] at named
    exact Registry.depthFree_standard name extension named operands operator.markup
  next => nofun

/-! ## Evaluation -/

/-- From every source, the evaluation does not complain about depth. -/
def Evaluation.DepthFree {α : Type} (evaluation : Evaluation α) : Prop :=
  ∀ source, Evaluated.DepthFree (evaluation.run.run source).1

namespace Evaluation.DepthFree

variable {α β : Type}

theorem pure (value : α) : DepthFree (Pure.pure value) :=
  fun _ => nofun

theorem ofEvaluated {result : Evaluated α} (free : Evaluated.DepthFree result) :
    DepthFree (liftM result : Evaluation α) := by
  cases result with
  | ok value => exact pure value
  | error error => exact fun _ => free

theorem bind {first : Evaluation α} {next : α → Evaluation β} (free : DepthFree first)
    (freeNext : ∀ value, DepthFree (next value)) : DepthFree (first >>= next) := by
  intro source
  have here := free source
  rw [run_run_bind]
  cases ended : (first.run.run source).1 with
  | ok value => exact freeNext value _
  | error error =>
      rw [ended] at here
      intro limit same
      cases same
      exact here limit rfl

end Evaluation.DepthFree

namespace Evaluation

theorem depthFree_take {α : Type} (draw? : RandomSource → Option (α × RandomSource))
    (otherwise : α) : DepthFree (take draw? otherwise) := by
  refine .bind (fun _ => nofun) fun source => ?_
  split
  next => exact .bind (fun _ => nofun) fun _ => .pure _
  next => exact .pure _

theorem depthFree_drawScalar (operand : Value) : DepthFree (drawScalar operand) := by
  unfold drawScalar
  extract_lets scalars
  split
  next => exact .pure _
  next => exact .bind (depthFree_take _ _) fun _ => .pure _

theorem depthFree_drawInteger (low high step : Int64) :
    DepthFree (drawInteger low high step) := by
  simp only [drawInteger]
  split
  next => exact .ofEvaluated nofun
  next =>
    split
    next => exact .ofEvaluated nofun
    next =>
      exact .bind (depthFree_take _ _) fun _ => .ofEvaluated Value.ownErrors_ofInteger?.depthFree

theorem depthFree_drawFloat (low high : Float) : DepthFree (drawFloat low high) := by
  simp only [drawFloat]
  repeat' split
  case isFalse.isFalse.isFalse.isFalse.isFalse =>
    exact .bind (depthFree_take _ _) fun _ => .pure _
  all_goals first | exact .pure _ | exact .ofEvaluated nofun

end Evaluation

theorem Operator.depthFree_apply (context : Context) (operator : Operator)
    (operands : List Value) : Evaluation.DepthFree (operator.apply context operands) := by
  by_cases random : operator = .random
  · subst random
    refine .bind (.ofEvaluated Signature.ownErrors_check.depthFree) fun _ => ?_
    split
    next => exact .pure _
    next =>
      split
      next => exact Evaluation.depthFree_drawScalar _
      next => exact .ofEvaluated depthFree_compute
  · rw [apply_eq_of_ne_random random]
    refine .bind (.ofEvaluated Signature.ownErrors_check.depthFree) fun _ => ?_
    split
    next => exact .pure _
    next => exact .ofEvaluated depthFree_compute

namespace Expression

theorem depthFree_leafValue (context : Context) (leaf : Expression) :
    Evaluation.DepthFree (leaf.leafValue context) := by
  have found := fun identifier =>
    Evaluation.DepthFree.ofEvaluated (context.ownErrors_lookUp identifier).depthFree
  cases leaf with
  | valueOf identifier => exact .bind (found identifier) fun _ => .pure _
  | correctOf identifier =>
      refine .bind (found identifier) fun v => ?_
      cases v.correct? with
      | none => exact fun _ => nofun
      | some correct => exact .pure _
  | defaultOf identifier => exact .bind (found identifier) fun _ => .pure _
  | mapResponse identifier =>
      exact .bind (found identifier) fun v => .ofEvaluated v.ownErrors_mappedScore.depthFree
  | mapResponsePoint identifier =>
      exact .bind (found identifier) fun v => .ofEvaluated v.ownErrors_areaScore.depthFree
  | randomInteger low high step =>
      exact .bind (.ofEvaluated low.ownErrors_resolve.depthFree) fun _ =>
        .bind (.ofEvaluated high.ownErrors_resolve.depthFree) fun _ =>
          .bind (.ofEvaluated step.ownErrors_resolve.depthFree) fun _ =>
            Evaluation.depthFree_drawInteger _ _ _
  | randomFloat low high =>
      exact .bind (.ofEvaluated low.ownErrors_resolve.depthFree) fun _ =>
        .bind (.ofEvaluated high.ownErrors_resolve.depthFree) fun _ =>
          Evaluation.depthFree_drawFloat _ _
  | _ => exact .pure _

end Expression

end Assessment
