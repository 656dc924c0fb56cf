import Assessment.Proofs.ReadFrame
import Assessment.Proofs.Write

/-!
# Evaluation without draws

An expression without random parts has one result: every random source gives it, and
is left where it was.  What an assignment of such an expression does depends on the store
alone.
-/

namespace Assessment

/-- Every source gives the same result and stays where it is. -/
def Evaluation.Drawless {α : Type} (evaluation : Evaluation α) : Prop :=
  ∃ result, ∀ source, evaluation.run.run source = (result, source)

namespace Evaluation.Drawless

variable {α β : Type}

theorem pure (value : α) : Drawless (Pure.pure value) :=
  ⟨.ok value, fun _ => rfl⟩

theorem ofEvaluated (result : Evaluated α) : Drawless (liftM result : Evaluation α) := by
  cases result with
  | ok value => exact ⟨.ok value, fun _ => rfl⟩
  | error error => exact ⟨.error error, fun _ => rfl⟩

theorem bind {first : Evaluation α} {next : α → Evaluation β} (drawless : Drawless first)
    (rest : ∀ value, Drawless (next value)) : Drawless (first >>= next) := by
  obtain ⟨result, same⟩ := drawless
  cases result with
  | error error =>
      refine ⟨.error error, fun source => ?_⟩
      rw [run_run_bind, same]
  | ok value =>
      obtain ⟨final, sameFinal⟩ := rest value
      refine ⟨final, fun source => ?_⟩
      rw [run_run_bind, same]
      exact sameFinal source

end Evaluation.Drawless

open Evaluation (Drawless)

theorem Operator.apply_drawless {operator : Operator} (different : operator ≠ .random)
    (context : Context) (operands : List Value) :
    Drawless (operator.apply context operands) := by
  rw [apply_eq_of_ne_random different]
  refine Drawless.bind (.ofEvaluated _) fun _ => ?_
  split
  · exact .pure _
  · exact .ofEvaluated _

namespace Expression

theorem leafValue_drawless (context : Context) {expression : Expression}
    (free : expression.isRandom = false) : Drawless (expression.leafValue context) := by
  cases expression with
  | valueOf identifier => exact Drawless.bind (.ofEvaluated _) fun _ => .pure _
  | correctOf identifier =>
      refine Drawless.bind (.ofEvaluated _) fun v => ?_
      cases v.correct? with
      | none => exact ⟨_, fun _ => rfl⟩
      | some correct => exact .pure _
  | defaultOf identifier => exact Drawless.bind (.ofEvaluated _) fun _ => .pure _
  | mapResponse identifier => exact Drawless.bind (.ofEvaluated _) fun _ => .ofEvaluated _
  | mapResponsePoint identifier => exact Drawless.bind (.ofEvaluated _) fun _ => .ofEvaluated _
  | randomInteger low high step => cases free
  | randomFloat low high => cases free
  | _ => exact .pure _

mutual

theorem evaluateAt_drawless (context : Context) (depth : Nat) (expression : Expression)
    (free : expression.isRandom = false) : Drawless (expression.evaluateAt context depth) := by
  cases expression with
  | apply operator operands =>
      simp only [isRandom, Bool.or_eq_false_iff, beq_eq_false_iff_ne] at free
      rw [evaluateAt]
      refine Drawless.bind (.ofEvaluated _) fun _ => ?_
      exact Drawless.bind (evaluateAllAt_drawless context (depth + 1) operands free.2)
        fun values => operator.apply_drawless free.1 context values
  | custom operator operands =>
      simp only [isRandom] at free
      rw [evaluateAt]
      refine Drawless.bind (.ofEvaluated _) fun _ => ?_
      exact Drawless.bind (evaluateAllAt_drawless context (depth + 1) operands free)
        fun _ => .ofEvaluated _
  | _ =>
      simp only [evaluateAt]
      refine Drawless.bind (.ofEvaluated _) fun _ => ?_
      exact leafValue_drawless context free

theorem evaluateAllAt_drawless (context : Context) (depth : Nat) (operands : List Expression)
    (free : anyRandom operands = false) : Drawless (evaluateAllAt context depth operands) := by
  cases operands with
  | nil => exact .pure _
  | cons operand operands =>
      simp only [anyRandom, Bool.or_eq_false_iff] at free
      rw [evaluateAllAt]
      refine Drawless.bind (evaluateAt_drawless context depth operand free.1) fun _ => ?_
      exact Drawless.bind (evaluateAllAt_drawless context depth operands free.2) fun _ => .pure _

end

theorem evaluate_drawless (context : Context) (expression : Expression)
    (free : expression.isRandom = false) : Drawless (expression.evaluate context) :=
  evaluateAt_drawless context 1 expression free

end Expression

namespace Assignment

variable {environment : Environment}

/-- An assignment without draws does the same to a store whatever the random source and
the trace are. -/
theorem execute_drawless (environment : Environment) {assignment : Assignment}
    (free : assignment.expression.isRandom = false) (store : Store) :
    ∃ result after, ∀ source trace,
      (assignment.execute environment).run.run ⟨store, source, trace⟩ =
        (result, ⟨after, source, trace⟩) := by
  simp only [run_execute]
  cases assignment.target? store with
  | error error => exact ⟨_, store, fun _ _ => rfl⟩
  | ok v =>
      obtain ⟨result, same⟩ :=
        assignment.expression.evaluate_drawless (environment.over store) free
      simp only [Execution.run_bind, Execution.run_evaluate, same]
      cases result with
      | error cause => exact ⟨_, store, fun _ _ => rfl⟩
      | ok value =>
          simp only [Execution.ofEvaluated, store_eq]
          cases assignment.written v value with
          | error error => exact ⟨_, store, fun _ _ => rfl⟩
          | ok wanted =>
              simp only [Execution.run_write]
              cases store.assign assignment.kind assignment.target wanted with
              | error cause => exact ⟨_, store, fun _ _ => rfl⟩
              | ok after => exact ⟨_, after, fun _ _ => rfl⟩

/-- From any progress with the same store, the assignment does the same again. -/
theorem run_of_store_eq {assignment : Assignment}
    (free : assignment.expression.isRandom = false) {before after : Progress}
    {result : Except Signal Unit}
    (ran : (assignment.execute environment).run.run before = (result, after))
    (other : Progress) (same : other.store = before.store) :
    (assignment.execute environment).run.run other =
      (result, { other with store := after.store }) := by
  obtain ⟨_, left, drawless⟩ := assignment.execute_drawless environment free before.store
  have first := drawless before.source before.trace
  have again := drawless other.source other.trace
  rw [← same] at again
  rw [ran] at first
  cases first
  exact again

end Assignment

end Assessment
