import Assessment.Proofs.Lockstep
import Assessment.Proofs.ReadFrame

/-!
# Limits

The limits on nesting and on sizes of containers can stop a computation with an error,
but they do not change what it gives.  With higher limits, everything that did not fail
because of a limit is the same: results, draws, traces and stores.
-/

namespace Assessment

/-- The second environment allows at least as much nesting and containers at least as
large, and is the same in everything else. -/
structure Environment.RaisedTo (low high : Environment) : Prop where
  expressionDepth : low.settings.maxExpressionDepth ≤ high.settings.maxExpressionDepth
  ruleDepth : low.settings.maxRuleDepth ≤ high.settings.maxRuleDepth
  containerSize : low.settings.maxContainerSize ≤ high.settings.maxContainerSize
  templateAttempts : low.settings.maxTemplateAttempts = high.settings.maxTemplateAttempts
  seed : low.settings.seed = high.settings.seed
  templates : low.settings.templates = high.settings.templates
  registry : low.registry = high.registry

/-- The errors that a limit raises. -/
def EvalError.isLimit : EvalError → Bool
  | .containerTooLarge .. => true
  | .depthExceeded _ => true
  | _ => false

def RuleError.isLimit : RuleError → Bool
  | .expression _ cause => cause.isLimit
  | .depthExceeded _ => true
  | _ => false

/-! ## Evaluation -/

/-- The results are the same unless the first one is the error of a limit. -/
def Evaluated.SameUnlessLimit {α : Type} (limited free : Evaluated α) : Prop :=
  (∃ error, limited = .error error ∧ error.isLimit) ∨ limited = free

/-- From every source, the evaluations give and draw the same unless the first one ends
with the error of a limit. -/
def Evaluation.SameUnlessLimit {α : Type} (limited free : Evaluation α) : Prop :=
  ∀ source,
    (∃ error, (limited.run.run source).1 = .error error ∧ error.isLimit) ∨
      limited.run.run source = free.run.run source

namespace Evaluation.SameUnlessLimit

variable {α β : Type}

theorem refl (evaluation : Evaluation α) : SameUnlessLimit evaluation evaluation :=
  fun _ => .inr rfl

theorem ofEvaluated {limited free : Evaluated α}
    (same : Evaluated.SameUnlessLimit limited free) :
    SameUnlessLimit (liftM limited : Evaluation α) (liftM free : Evaluation α) := by
  rcases same with ⟨error, rfl, isLimit⟩ | rfl
  · exact fun _ => .inl ⟨error, rfl, isLimit⟩
  · exact refl _

theorem bind {limited free : Evaluation α} {next other : α → Evaluation β}
    (first : SameUnlessLimit limited free)
    (rest : ∀ value, SameUnlessLimit (next value) (other value)) :
    SameUnlessLimit (limited >>= next) (free >>= other) := by
  intro source
  rw [run_run_bind, run_run_bind]
  rcases first source with ⟨error, failed, isLimit⟩ | same
  · rw [failed]
    exact .inl ⟨error, rfl, isLimit⟩
  · rw [← same]
    cases (limited.run.run source).1 with
    | ok value => exact rest value _
    | error error => exact .inr rfl

end Evaluation.SameUnlessLimit

/-! ## Where limits are looked at -/

theorem Collection.replicate_sameUnlessLimit {small large : Nat} (raised : small ≤ large)
    (count : Int64) (operands : List Value) :
    Evaluated.SameUnlessLimit (replicate small count operands)
      (replicate large count operands) := by
  unfold replicate
  split
  · exact .inr rfl
  · cases gather "repeat" operands with
    | error error => exact .inr rfl
    | ok gathered =>
        cases gathered with
        | none => exact .inr rfl
        | some once =>
            simp only [Bind.bind, Except.bind]
            split
            next => exact .inl ⟨_, rfl, rfl⟩
            next fits => rw [if_neg (by omega)]; exact .inr rfl

/-- Of all operators, only repetition looks at the size that is allowed. -/
theorem Operator.compute_sameUnlessLimit {small large : Nat} (raised : small ≤ large)
    (store : Store) (operator : Operator) (operands : List Value) :
    Evaluated.SameUnlessLimit (operator.compute store small operands)
      (operator.compute store large operands) := by
  cases operator with
  | replicate count =>
      simp only [compute]
      cases count.resolveInteger (Operator.replicate count).name "numberRepeats" store with
      | error error => exact .inr rfl
      | ok count => exact Collection.replicate_sameUnlessLimit raised count operands
  | math function => cases function <;> exact .inr rfl
  | _ => exact .inr rfl

theorem Expression.leafValue_over (low high : Environment) (store : Store)
    (expression : Expression) :
    expression.leafValue (low.over store) = expression.leafValue (high.over store) := by
  cases expression <;> rfl

namespace Environment.RaisedTo

open Evaluation (SameUnlessLimit)

variable {low high : Environment}

theorem checkDepth (raised : low.RaisedTo high) (store : Store) (depth : Nat) :
    Evaluated.SameUnlessLimit ((low.over store).checkDepth depth)
      ((high.over store).checkDepth depth) := by
  have higher : (low.over store).settings.maxExpressionDepth ≤
      (high.over store).settings.maxExpressionDepth := raised.expressionDepth
  unfold Context.checkDepth
  split
  next => exact .inl ⟨_, rfl, rfl⟩
  next fits => rw [if_neg (by omega)]; exact .inr rfl

theorem applyCustom (raised : low.RaisedTo high) (store : Store) (operator : CustomOperator)
    (operands : List Value) :
    operator.apply (low.over store) operands = operator.apply (high.over store) operands := by
  simp only [CustomOperator.apply, Environment.over, raised.registry]

theorem applyOperator (raised : low.RaisedTo high) (store : Store) (operator : Operator)
    (operands : List Value) :
    SameUnlessLimit (operator.apply (low.over store) operands)
      (operator.apply (high.over store) operands) := by
  by_cases random : operator = .random
  · subst random
    rcases operands with _ | ⟨first, _ | ⟨second, rest⟩⟩ <;> exact .refl _
  · rw [Operator.apply_eq_of_ne_random random, Operator.apply_eq_of_ne_random random]
    refine SameUnlessLimit.bind (.refl _) fun _ => ?_
    split
    · exact .refl _
    · exact .ofEvaluated
        (operator.compute_sameUnlessLimit raised.containerSize store operands)

mutual

theorem evaluateAt (raised : low.RaisedTo high) (store : Store) (depth : Nat)
    (expression : Expression) :
    SameUnlessLimit (expression.evaluateAt (low.over store) depth)
      (expression.evaluateAt (high.over store) depth) := by
  have checked := SameUnlessLimit.ofEvaluated (raised.checkDepth store depth)
  cases expression with
  | apply operator operands =>
      rw [Expression.evaluateAt, Expression.evaluateAt]
      refine checked.bind fun _ => ?_
      exact (evaluateAllAt raised store (depth + 1) operands).bind
        fun values => raised.applyOperator store operator values
  | custom operator operands =>
      rw [Expression.evaluateAt, Expression.evaluateAt]
      refine checked.bind fun _ => ?_
      refine (evaluateAllAt raised store (depth + 1) operands).bind fun values => ?_
      rw [raised.applyCustom]
      exact .refl _
  | _ =>
      simp only [Expression.evaluateAt, Expression.leafValue_over low high]
      exact checked.bind fun _ => .refl _

theorem evaluateAllAt (raised : low.RaisedTo high) (store : Store) (depth : Nat)
    (operands : List Expression) :
    SameUnlessLimit (Expression.evaluateAllAt (low.over store) depth operands)
      (Expression.evaluateAllAt (high.over store) depth operands) := by
  cases operands with
  | nil => exact .refl _
  | cons operand operands =>
      rw [Expression.evaluateAllAt, Expression.evaluateAllAt]
      refine (evaluateAt raised store depth operand).bind fun _ => ?_
      exact (evaluateAllAt raised store depth operands).bind fun _ => .refl _

end

/-! ## Rules -/

/-- An evaluation in a rule is the same, or fails because of a limit. -/
theorem evaluate (raised : low.RaisedTo high) (rule : String) (expression : Expression) :
    LockstepUnless (Execution.Excused fun error => error.isLimit) Eq
      (Execution.evaluate low rule expression).run
      (Execution.evaluate high rule expression).run := by
  rintro progress _ rfl
  rw [Execution.run_evaluate, Execution.run_evaluate]
  rcases raised.evaluateAt progress.store 1 expression progress.source with
    ⟨error, failed, isLimit⟩ | same
  · refine .inl ⟨.expression rule error, ?_, isLimit⟩
    exact congrArg (Execution.ofEvaluated rule) failed
  · right
    simp only [Expression.evaluate, same, and_self]

theorem enter (raised : low.RaisedTo high) (depth : Nat) (rule : Rule) :
    LockstepUnless (Execution.Excused fun error => error.isLimit) Eq
      (Execution.enter low depth rule).run (Execution.enter high depth rule).run := by
  rintro progress _ rfl
  have higher := raised.ruleDepth
  rw [Execution.run_enter, Execution.run_enter]
  by_cases tooDeep : low.settings.maxRuleDepth < depth
  · rw [if_pos tooDeep]
    exact .inl ⟨_, rfl, rfl⟩
  · rw [if_neg tooDeep, if_neg (by omega)]
    exact .inr ⟨rfl, rfl⟩

theorem partsInLockstepUnless (raised : low.RaisedTo high) (conditions : List Expression)
    (assignments : List Assignment) :
    Rule.PartsInLockstepUnless (fun error => error.isLimit) Eq low high conditions
      assignments where
  entered := raised.enter
  conditions condition _ rule := raised.evaluate rule condition
  assignments assignment _ :=
    assignment.execute_lockstepUnless (fun same => by rw [same])
      (raised.evaluate _ assignment.expression) fun _ _ => .refl _

end Environment.RaisedTo

namespace Processor

/-- A run under higher limits is the same, unless one of the failures under the lower
ones is that of a limit. -/
theorem run_eq_or_limit {low high : Environment} (raised : low.RaisedTo high)
    (source : RandomSource) (resolved : Except RuleError (List Rule)) (store : Store)
    (processor : Processor) :
    Engine.Excused (fun error => error.isLimit)
        (processor.run low source resolved store).outcome ∨
      processor.run high source resolved store = processor.run low source resolved store := by
  by_cases idle : processor.status = .idle
  · cases resolved with
    | error error => exact .inr rfl
    | ok rules =>
        have lockstep : LockstepUnless (Engine.Excused fun error => error.isLimit) Eq
            (Engine.run low processor.kind rules) (Engine.run high processor.kind rules) :=
          Engine.run_lockstepUnless processor.kind rules raised.templateAttempts
            (raised.partsInLockstepUnless _ _) (.refl _)
        simp only [run, idle, ne_eq, not_true_eq_false, if_false]
        have start : (⟨store, source, #[]⟩ : Progress) = ⟨store, source, #[]⟩ := rfl
        rcases lockstep start with excused | ⟨outcome, progress⟩
        · exact .inl excused
        · right
          rw [Prod.ext outcome progress]
  · right
    simp only [run, ne_eq, idle, not_false_eq_true, if_true]

/-- Raising limits does not change a run that completes, nor one that fails for other
reasons only: outcome, trace and store stay the same. -/
theorem run_raised {low high : Environment} (raised : low.RaisedTo high)
    (source : RandomSource) (resolved : Except RuleError (List Rule)) (store : Store)
    (processor : Processor) :
    let limited := processor.run low source resolved store
    let free := processor.run high source resolved store
    (∀ report, limited.outcome = .ok report → free = limited) ∧
      ∀ error, limited.outcome = .error error →
        (∀ failure ∈ error.failures, failure.isLimit = false) → free = limited := by
  intro limited free
  rcases run_eq_or_limit raised source resolved store processor with
    ⟨failed, (outcome : limited.outcome = _), failure, member, isLimit⟩ | same
  · refine ⟨fun report completed => ?_, fun error failedWith noLimit => ?_⟩
    · rw [outcome] at completed
      cases completed
    · rw [outcome] at failedWith
      cases failedWith
      rw [noLimit failure member] at isLimit
      cases isLimit
  · exact ⟨fun _ _ => same, fun _ _ _ => same⟩

/-- Limits that suffice for `countRepeated 4` and not for more. -/
def tightLimits : Settings :=
  { Settings.default with maxExpressionDepth := 3, maxRuleDepth := 2, maxContainerSize := 4 }

/-- Counts the scalars of a container that repeats a value. -/
def countRepeated (times : Int64) : List Rule :=
  [.fragment .response
    [.set .outcomeValue "SCORE"
      (.apply .containerSize
        [.apply (.replicate (.literal times)) [.baseValue (.integer 7)]])]]

theorem run_raised_countRepeated :
    let low : Environment := ⟨tightLimits, .standard⟩
    let high : Environment := ⟨.default, .standard⟩
    let store : Store :=
      ⟨[⟨"SCORE", .single .integer, .outcome ⟨none, none, none, none⟩, .integer 0, .null⟩]⟩
    let run := fun environment times =>
      (ofKind .response).run environment (.ofSeed 0) (.ok (countRepeated times)) store
    low.RaisedTo high ∧ (run low 4).outcome = .ok ⟨false, 1, true⟩ ∧
      (run low 4).store.value? "SCORE" = some (.integer 4) ∧ run high 4 = run low 4 ∧
      (run low 5).outcome =
        .error (.aggregate [.expression "setOutcomeValue" (.containerTooLarge "repeat" 5 4)]) ∧
      (run high 5).outcome = .ok ⟨false, 1, true⟩ := by
  intro low high store run
  have raised : low.RaisedTo high :=
    ⟨by decide, by decide, by decide, rfl, rfl, rfl, rfl⟩
  have completed : (run low 4).outcome = .ok ⟨false, 1, true⟩ := rfl
  have same : run high 4 = run low 4 :=
    (run_raised raised (.ofSeed 0) (.ok (countRepeated 4)) store (ofKind .response)).1 _
      completed
  exact ⟨raised, completed, by decide +kernel, same, rfl, rfl⟩

end Processor

end Assessment
