import Assessment.Proofs.Lockstep
import Assessment.Proofs.ReadFrame
import Assessment.Proofs.Write

/-!
# Rules are local

A rule depends only on the variables that it names and changes no others.  Two
executions from stores that agree on these variables run in lockstep, whatever the
stores hold besides.
-/

namespace Assessment

theorem Store.AgreeOn.update {names : List String} {left right : Store}
    (agree : AgreeOn names left right) {identifier : String} {change : Variable → Variable}
    (keepsName : ∀ v, (change v).identifier = v.identifier) :
    AgreeOn names (left.update identifier change) (right.update identifier change) := by
  intro name member
  rw [get?_update keepsName, get?_update keepsName]
  by_cases target : name = identifier
  · subst target
    rw [agree name member]
  · rw [if_neg target, if_neg target]
    exact agree name member

/-- Progress that differs only in variables without one of the names. -/
structure Progress.AgreeOn (names : List String) (left right : Progress) : Prop where
  store : Store.AgreeOn names left.store right.store
  source : left.source = right.source
  trace : left.trace = right.trace

/-! ## Parts of rules -/

variable {names : List String} {environment : Environment}

theorem Execution.evaluate_lockstep (rule : String) {expression : Expression}
    (covered : expression.references ⊆ names) :
    Lockstep (Progress.AgreeOn names) (evaluate environment rule expression).run
      (evaluate environment rule expression).run := by
  intro left right agree
  rw [run_evaluate, run_evaluate,
    expression.evaluate_agree environment (agree.store.mono covered), agree.source]
  exact ⟨rfl, agree.store, rfl, agree.trace⟩

theorem Execution.write_lockstep (rule : String) (kind : AssignmentKind)
    {identifier : String} (value : Value) (named : identifier ∈ names) :
    Lockstep (Progress.AgreeOn names)
      (write rule fun store => store.assign kind identifier value).run
      (write rule fun store => store.assign kind identifier value).run := by
  intro left right agree
  rw [run_write, run_write, Store.assign_eq, Store.assign_eq,
    agree.store identifier named]
  cases right.store.get? identifier with
  | none => exact ⟨rfl, agree⟩
  | some v =>
      dsimp only
      cases v.type.coerce? value with
      | none => exact ⟨rfl, agree⟩
      | some fitting =>
          refine ⟨rfl, ?_, agree.source, agree.trace⟩
          exact agree.store.update fun _ => AssignmentKind.identifier_put

namespace Assignment

theorem target?_agree (assignment : Assignment) {left right : Store}
    (agree : Store.AgreeOn names left right) (named : assignment.target ∈ names) :
    assignment.target? left = assignment.target? right := by
  simp only [target?, Store.get, agree assignment.target named]

theorem store_lockstep (assignment : Assignment) (v : Variable) (value : Value)
    (named : assignment.target ∈ names) :
    Lockstep (Progress.AgreeOn names) (assignment.store v value).run
      (assignment.store v value).run := by
  rw [store_eq]
  cases assignment.written v value with
  | error error => exact Lockstep.throw _
  | ok found =>
      exact Execution.write_lockstep assignment.kind.className assignment.kind found named

theorem execute_lockstep (assignment : Assignment)
    (covered : assignment.references ⊆ names) :
    Lockstep (Progress.AgreeOn names) (assignment.execute environment).run
      (assignment.execute environment).run := by
  have named : assignment.target ∈ names := covered List.mem_cons_self
  have expression : assignment.expression.references ⊆ names :=
    fun name member => covered (List.mem_cons_of_mem assignment.target member)
  exact assignment.execute_lockstep_of_steps
    (fun agree => assignment.target?_agree agree.store named)
    (Execution.evaluate_lockstep assignment.kind.className expression)
    fun v value => assignment.store_lockstep v value named

end Assignment

/-! ## Rules -/

namespace Rule

/-- All parts of a rule run in lockstep over the variables that the rule names. -/
theorem partsInLockstep_of_agree (environment : Environment) (rule : Rule) :
    PartsInLockstep (Progress.AgreeOn rule.references) environment rule.conditions
      rule.assignments where
  noted line agree := ⟨agree.store, agree.source, congrArg (·.push line) agree.trace⟩
  conditions _ member name :=
    Execution.evaluate_lockstep name (references_of_condition member)
  assignments assignment member :=
    assignment.execute_lockstep (references_of_assignment member)

/-- Executing a rule leaves the identifiers and all variables that the rule does not
name as they are. -/
theorem execute_untouched (environment : Environment) (rule : Rule) (progress : Progress) :
    let after := ((rule.execute environment).run.run progress).2.store
    after.identifiers = progress.store.identifiers ∧
      ∀ name, name ∉ rule.references → after.get? name = progress.store.get? name := by
  have keeps : Keeps
      (fun store => store.identifiers = progress.store.identifiers ∧
        ∀ name, name ∉ rule.references → store.get? name = progress.store.get? name)
      (rule.execute environment).run := by
    refine rule.execute_keeps fun assignment member current untouched => ?_
    rcases assignment.execute_cases environment current with
      ⟨signal, _, unchanged⟩ | ⟨_, v, coerced, wrote⟩
    · rw [unchanged]
      exact untouched
    · rw [wrote.result]
      refine ⟨?_, fun name other => ?_⟩
      · rw [Store.identifiers_update fun _ => AssignmentKind.identifier_put]
        exact untouched.1
      · rw [Store.get?_update fun _ => AssignmentKind.identifier_put, if_neg]
        · exact untouched.2 name other
        · rintro rfl
          exact other (target_mem_references member)
  exact keeps progress ⟨rfl, fun _ _ => rfl⟩

/-- From stores that agree on the variables that a rule names, it has the same result,
trace and draws, the stores agree on these variables again, and neither has changed
another variable. -/
theorem execute_local (environment : Environment) (rule : Rule) (source : RandomSource)
    (trace : Array String) {left right : Store}
    (agree : Store.AgreeOn rule.references left right) :
    let leftEnd := (rule.execute environment).run.run ⟨left, source, trace⟩
    let rightEnd := (rule.execute environment).run.run ⟨right, source, trace⟩
    leftEnd.1 = rightEnd.1 ∧
      Progress.AgreeOn rule.references leftEnd.2 rightEnd.2 ∧
      (leftEnd.2.store.identifiers = left.identifiers ∧
        ∀ name, name ∉ rule.references → leftEnd.2.store.get? name = left.get? name) ∧
      (rightEnd.2.store.identifiers = right.identifiers ∧
        ∀ name, name ∉ rule.references → rightEnd.2.store.get? name = right.get? name) := by
  intro leftEnd rightEnd
  have start : Progress.AgreeOn rule.references ⟨left, source, trace⟩ ⟨right, source, trace⟩ :=
    ⟨agree, rfl, rfl⟩
  obtain ⟨sameResult, agreeAfter⟩ :=
    (rule.partsInLockstep_of_agree environment).executeAt 1 rule start
  exact ⟨sameResult, agreeAfter, execute_untouched environment rule ⟨left, source, trace⟩,
    execute_untouched environment rule ⟨right, source, trace⟩⟩

/-- Two answers and their count, with a template variable `N` of the given value. -/
def countStore (n : Int64) : Store :=
  ⟨[⟨"RESPONSE", .multiple .identifier, .response ⟨.null, none, none⟩,
      .multiple ⟨.identifier, [.identifier "A", .identifier "B"]⟩, .null⟩,
    ⟨"SCORE", .single .integer, .outcome ⟨none, none, none, none⟩, .integer 0, .null⟩,
    ⟨"N", .single .integer, .template ⟨false, false⟩, .integer n, .null⟩]⟩

theorem execute_local_other_template :
    let rule := Rule.set .outcomeValue "SCORE" (.apply .containerSize [.valueOf "RESPONSE"])
    let leftEnd := (rule.execute ⟨.default, .standard⟩).run.run ⟨countStore 1, .ofSeed 0, #[]⟩
    let rightEnd := (rule.execute ⟨.default, .standard⟩).run.run ⟨countStore 2, .ofSeed 0, #[]⟩
    leftEnd.1 = rightEnd.1 ∧
      leftEnd.2.store.value? "SCORE" = some (.integer 2) ∧
      Progress.AgreeOn rule.references leftEnd.2 rightEnd.2 ∧
      leftEnd.2.store.value? "N" = some (.integer 1) ∧
      rightEnd.2.store.value? "N" = some (.integer 2) := by
  intro rule leftEnd rightEnd
  have agree : Store.AgreeOn rule.references (countStore 1) (countStore 2) := by
    decide +kernel
  obtain ⟨sameResult, agreeAfter, leftKept, rightKept⟩ :=
    execute_local ⟨.default, .standard⟩ rule (.ofSeed 0) #[] agree
  refine ⟨sameResult, by decide +kernel, agreeAfter, ?_, ?_⟩
  · rw [Store.value?, leftKept.2 "N" (by decide)]
    rfl
  · rw [Store.value?, rightKept.2 "N" (by decide)]
    rfl

end Rule

end Assessment
