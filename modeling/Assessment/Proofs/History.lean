import Assessment.Evaluator
import Assessment.Proofs.Drawless

/-!
# Evaluation and its history

An evaluator carries two things from one evaluation to the next.  The compiled patterns
never show: whatever the cache holds, an evaluator gives and draws what evaluation
without a cache does.  The random source shows only in expressions with random parts, so
all others have no history.
-/

namespace Assessment

/-- A cache gives what compiling afresh gives. -/
theorem PatternCache.compile_fst (cache : PatternCache) (text : String) :
    (cache.compile text).1 = Pattern.whole? text.toList := by
  unfold compile
  split
  next pattern found => exact (cache.sound text pattern found).symm
  next =>
    split
    next pattern compiles => exact compiles.symm
    next fails => exact fails.symm

namespace Evaluator

/-! ## Computations without a cache -/

/-- Whatever patterns are compiled, the computation gives and draws what the evaluation
does. -/
def Realizes {α : Type} (computation : Computation α) (evaluation : Evaluation α) : Prop :=
  ∀ evaluator : Evaluator,
    (computation.run.run evaluator).1 = (evaluation.run.run evaluator.source).1 ∧
      (computation.run.run evaluator).2.source = (evaluation.run.run evaluator.source).2

namespace Realizes

variable {α β : Type}

theorem pure (value : α) : Realizes (Pure.pure value) (Pure.pure value) :=
  fun _ => ⟨rfl, rfl⟩

theorem throw (error : EvalError) :
    Realizes (α := α) (MonadExcept.throw error) (MonadExcept.throw error) :=
  fun _ => ⟨rfl, rfl⟩

theorem ofEvaluated (result : Evaluated α) :
    Realizes (liftM result : Computation α) (liftM result : Evaluation α) := by
  cases result with
  | ok value => exact pure value
  | error error => exact throw error

theorem draw (evaluation : Evaluation α) : Realizes (draw evaluation) evaluation :=
  fun _ => ⟨rfl, rfl⟩

theorem bind {first : Computation α} {plain : Evaluation α} {next : α → Computation β}
    {rest : α → Evaluation β} (realizes : Realizes first plain)
    (realizesRest : ∀ value, Realizes (next value) (rest value)) :
    Realizes (first >>= next) (plain >>= rest) := by
  intro evaluator
  obtain ⟨sameResult, sameSource⟩ := realizes evaluator
  rw [run_run_bind, run_run_bind, sameResult, ← sameSource]
  cases (plain.run.run evaluator.source).1 with
  | ok value => exact realizesRest value _
  | error error => exact ⟨rfl, rfl⟩

end Realizes

/-! ## Operators -/

theorem run_compile (text : String) (evaluator : Evaluator) :
    (compile text).run.run evaluator =
      (.ok (Pattern.whole? text.toList),
        { evaluator with patterns := (evaluator.patterns.compile text).2 }) := by
  rw [← evaluator.patterns.compile_fst]
  rfl

theorem matchPattern_realizes (operator : Operator) (pattern : String)
    (operands : List Value) :
    Realizes (matchPattern operator pattern operands)
      (liftM (operator.unary Value.string? (operator.matchPattern pattern) operands)) := by
  match operands with
  | [] => exact .throw _
  | _ :: _ :: _ => exact .throw _
  | [operand] =>
      simp only [matchPattern, Operator.unary]
      cases operand.string? with
      | none => exact .throw _
      | some text =>
          intro evaluator
          simp only [run_run_bind, run_compile, Operator.matchPattern]
          cases Pattern.whole? pattern.toList with
          | none => exact ⟨rfl, rfl⟩
          | some compiled => exact ⟨rfl, rfl⟩

/-- The pattern operator is the only one with a computation of its own. -/
theorem applyOperator_realizes (context : Context) (operator : Operator)
    (operands : List Value) :
    Realizes (applyOperator context operator operands) (operator.apply context operands) := by
  cases operator with
  | patternMatch pattern =>
      rw [Operator.apply_eq_of_ne_random (by simp)]
      simp only [applyOperator]
      refine Realizes.bind (.ofEvaluated _) fun _ => ?_
      split
      · exact .pure _
      · simp only [Operator.compute]
        cases pattern.resolveString (Operator.patternMatch pattern).name "pattern"
            context.store with
        | error error => exact .throw error
        | ok text => exact matchPattern_realizes _ text operands
  | _ => exact .draw _

/-! ## Expressions -/

mutual

theorem evaluateAt_realizes (context : Context) (depth : Nat) (expression : Expression) :
    Realizes (evaluateAt context depth expression)
      (expression.evaluateAt context depth) := by
  cases expression with
  | apply operator operands =>
      rw [evaluateAt, Expression.evaluateAt]
      refine Realizes.bind (.ofEvaluated _) fun _ => ?_
      exact Realizes.bind (evaluateAllAt_realizes context (depth + 1) operands)
        fun values => applyOperator_realizes context operator values
  | custom operator operands =>
      rw [evaluateAt, Expression.evaluateAt]
      refine Realizes.bind (.ofEvaluated _) fun _ => ?_
      exact Realizes.bind (evaluateAllAt_realizes context (depth + 1) operands)
        fun _ => .ofEvaluated _
  | _ =>
      simp only [evaluateAt, Expression.evaluateAt]
      exact Realizes.bind (.ofEvaluated _) fun _ => .draw _

theorem evaluateAllAt_realizes (context : Context) (depth : Nat)
    (operands : List Expression) :
    Realizes (evaluateAllAt context depth operands)
      (Expression.evaluateAllAt context depth operands) := by
  cases operands with
  | nil => exact .pure _
  | cons operand operands =>
      rw [evaluateAllAt, Expression.evaluateAllAt]
      refine Realizes.bind (evaluateAt_realizes context depth operand) fun _ => ?_
      exact Realizes.bind (evaluateAllAt_realizes context depth operands) fun _ => .pure _

end

/-- An evaluator gives and draws what evaluation from its random source does. -/
theorem evaluate_realizes (context : Context) (expression : Expression)
    (evaluator : Evaluator) :
    let evaluated := (expression.evaluate context).run.run evaluator.source
    (evaluator.evaluate context expression).1 = evaluated.1 ∧
      (evaluator.evaluate context expression).2.source = evaluated.2 :=
  evaluateAt_realizes context 1 expression evaluator

/-- The step of a rule that evaluates an expression is the same whatever patterns are
compiled before it. -/
theorem run_evaluate_eq (environment : Environment) (rule : String)
    (expression : Expression) (progress : Progress) (patterns : PatternCache) :
    (Execution.evaluate environment rule expression).run.run progress =
      let evaluated := Evaluator.evaluate (environment.over progress.store) expression
        ⟨progress.source, patterns⟩
      (Execution.ofEvaluated rule evaluated.1,
        { progress with source := evaluated.2.source }) := by
  obtain ⟨sameResult, sameSource⟩ := evaluate_realizes (environment.over progress.store)
    expression ⟨progress.source, patterns⟩
  simp only [Execution.run_evaluate, sameResult, sameSource]

/-! ## Earlier evaluations -/

/-- The evaluator after evaluations, each of them over a store of its own. -/
def after (environment : Environment) (evaluator : Evaluator) :
    List (Store × Expression) → Evaluator
  | [] => evaluator
  | (store, expression) :: rest =>
      after environment (evaluator.evaluate (environment.over store) expression).2 rest

/-- An expression without random parts has the value or error that a fresh evaluator
gives, whatever was evaluated before and whatever the sources are, and nothing is drawn
for it. -/
theorem evaluate_after (environment : Environment) (earlier : List (Store × Expression))
    (source other : RandomSource) (store : Store) {expression : Expression}
    (free : expression.isRandom = false) :
    let used := (ofSource source).after environment earlier
    let context := environment.over store
    (used.evaluate context expression).1 = ((ofSource other).evaluate context expression).1 ∧
      (used.evaluate context expression).2.source = used.source := by
  intro used context
  obtain ⟨result, drawless⟩ := expression.evaluate_drawless context free
  obtain ⟨usedResult, usedSource⟩ := evaluate_realizes context expression used
  obtain ⟨freshResult, _⟩ := evaluate_realizes context expression (ofSource other)
  rw [drawless] at usedResult usedSource freshResult
  exact ⟨usedResult.trans freshResult.symm, usedSource⟩

/-- Whether a text as a whole matches a pattern. -/
def textMatches (text pattern : String) : Expression :=
  .apply (.patternMatch (.literal pattern)) [.baseValue (.string text)]

/-- The pattern is in the cache already, after a text that is no pattern and a draw. -/
theorem evaluate_after_match_and_draw :
    let environment : Environment := ⟨.default, .standard⟩
    let earlier := [(Store.empty, textMatches "aa" "a+"), (Store.empty, textMatches "" "("),
      (Store.empty, .randomInteger (.literal 1) (.literal 6) (.literal 1))]
    let used := (ofSource (.ofSeed 1)).after environment earlier
    let fresh := ofSource (.ofSeed 2)
    let evaluated := used.evaluate (environment.over .empty) (textMatches "aab" "a+")
    (textMatches "aab" "a+").isRandom = false ∧
      used.patterns.compiled.keys = ["a+"] ∧
      evaluated.1.toOption = some (.boolean false) ∧
      evaluated.1 = (fresh.evaluate (environment.over .empty) (textMatches "aab" "a+")).1 ∧
      used.source.position = 1 ∧ evaluated.2.source = used.source := by
  intro environment earlier used fresh evaluated
  have free : (textMatches "aab" "a+").isRandom = false := by decide
  obtain ⟨sameResult, sameSource⟩ :=
    evaluate_after environment earlier (.ofSeed 1) (.ofSeed 2) .empty free
  exact ⟨free, by decide +kernel, by decide +kernel, sameResult, by decide +kernel, sameSource⟩

end Evaluator

end Assessment
