import Assessment.Engine

/-!
# Equations of single steps

How the computations that rules are made of run from a given progress: a sequence
stops at the first signal, evaluating an expression only moves the random source, a
write changes the store or nothing, and entering a rule makes a line of the trace.
-/

namespace Assessment

/-- The line of the trace that says that a rule was entered. -/
def Rule.line (rule : Rule) : String :=
  rule.className ++ " executed"

/-- The progress after one more line of the trace. -/
def Progress.note (progress : Progress) (line : String) : Progress :=
  { progress with trace := progress.trace.push line }

/-- A sequence of computations with errors stops at the first one. -/
theorem run_run_bind {ε σ α β : Type} (first : ExceptT ε (StateM σ) α)
    (next : α → ExceptT ε (StateM σ) β) (before : σ) :
    (first >>= next).run.run before =
      match (first.run.run before).1 with
      | .ok value => (next value).run.run (first.run.run before).2
      | .error error => (.error error, (first.run.run before).2) := by
  rcases ended : first.run.run before with ⟨result, after⟩
  have plain : first before = (result, after) := ended
  simp only [bind, ExceptT.bind, ExceptT.mk, ExceptT.run, StateT.bind, StateT.run, plain]
  cases result <;> rfl

namespace Execution

variable {α β : Type}

theorem run_bind (first : Execution α) (next : α → Execution β) (progress : Progress) :
    (first >>= next).run.run progress =
      match (first.run.run progress).1 with
      | .ok value => (next value).run.run (first.run.run progress).2
      | .error signal => (.error signal, (first.run.run progress).2) := by
  rw [run_run_bind]
  cases (first.run.run progress).1 <;> rfl

theorem run_get (progress : Progress) :
    (get : Execution Progress).run.run progress = (.ok progress, progress) :=
  rfl

/-- The result of an evaluation as a step of the rule with the given name. -/
def ofEvaluated (rule : String) : Evaluated Value → Except Signal Value
  | .ok value => .ok value
  | .error cause => .error (.failure (.expression rule cause))

theorem run_evaluate (environment : Environment) (rule : String)
    (expression : Expression) (progress : Progress) :
    (evaluate environment rule expression).run.run progress =
      let drawn :=
        (expression.evaluate (environment.over progress.store)).run.run progress.source
      (ofEvaluated rule drawn.1, { progress with source := drawn.2 }) := by
  unfold evaluate
  simp only [run_bind, run_get]
  rcases (expression.evaluate (environment.over progress.store)).run.run progress.source
    with ⟨result, source⟩
  cases result <;> rfl

theorem run_write (rule : String) (change : Store → Except StoreError Store)
    (progress : Progress) :
    (write rule change).run.run progress =
      match change progress.store with
      | .ok store => (.ok (), { progress with store })
      | .error cause => (.error (.failure (.store rule cause)), progress) := by
  unfold write
  simp only [run_bind, run_get]
  cases change progress.store <;> rfl

theorem run_enter (environment : Environment) (depth : Nat) (rule : Rule)
    (progress : Progress) :
    (enter environment depth rule).run.run progress =
      if environment.settings.maxRuleDepth < depth then
        (.error (.failure (.depthExceeded environment.settings.maxRuleDepth)), progress)
      else
        (.ok (), progress.note rule.line) := by
  unfold enter
  split <;> rfl

/-- If rules may stand as deep, all that entering one does is to make its line. -/
theorem run_enter_bind {environment : Environment} {depth : Nat} {rule : Rule}
    (shallow : depth ≤ environment.settings.maxRuleDepth) (next : Unit → Execution β)
    (before : Progress) :
    (enter environment depth rule >>= next).run.run before =
      (next ()).run.run (before.note rule.line) := by
  rw [run_bind, run_enter, if_neg (Nat.not_lt.mpr shallow)]

end Execution

namespace Rule

variable {environment : Environment}

theorem run_executeAllAt_cons (depth : Nat) (rule : Rule) (rules : List Rule)
    (before : Progress) :
    (executeAllAt environment depth (rule :: rules)).run.run before =
      match (rule.executeAt environment depth).run.run before with
      | (.ok (), after) => (executeAllAt environment depth rules).run.run after
      | (.error signal, after) => (.error signal, after) := by
  rw [executeAllAt, Execution.run_bind]
  rcases (rule.executeAt environment depth).run.run before with ⟨_ | _, after⟩ <;> rfl

theorem run_executeAt_deep {depth : Nat} (deep : environment.settings.maxRuleDepth < depth)
    (rule : Rule) (before : Progress) :
    (rule.executeAt environment depth).run.run before =
      (.error (.failure (.depthExceeded environment.settings.maxRuleDepth)), before) := by
  rw [executeAt.eq_def, Execution.run_bind, Execution.run_enter, if_pos deep]

theorem run_executeAt_assign {depth : Nat} {assignment : Assignment}
    (shallow : depth ≤ environment.settings.maxRuleDepth) (before : Progress) :
    ((Rule.assign assignment).executeAt environment depth).run.run before =
      (assignment.execute environment).run.run
        (before.note (Rule.assign assignment).line) := by
  rw [executeAt, Execution.run_enter_bind shallow]

end Rule

end Assessment
