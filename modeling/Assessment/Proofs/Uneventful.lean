import Assessment.Proofs.Attempts
import Assessment.Proofs.Succession

/-!
# Uneventful runs

The engines differ in what they make of failures, exits and unsatisfied constraints.
Rules that meet none of these do the same in all of them, provided that template
variables have not moved from the values that they start with.
-/

namespace Assessment

/-! ## Template variables that have not moved -/

/-- Every template variable has the value that it starts with. -/
def Store.TemplatesAtStart (store : Store) : Prop :=
  ∀ v ∈ store.declared, v.role.kind = .template → v.value = v.initialValue

instance (store : Store) : Decidable store.TemplatesAtStart :=
  inferInstanceAs (Decidable (∀ v ∈ store.declared, _ → _))

theorem Store.TemplatesAtStart.resetTemplates_eq {store : Store}
    (atStart : store.TemplatesAtStart) : store.resetTemplates = store := by
  have unchanged : ∀ v ∈ store.declared,
      (if v.role.kind == .template then v.reset else v) = v := by
    intro v member
    by_cases template : v.role.kind = .template
    · rw [if_pos (by simpa using template), Variable.reset, ← atStart v member template]
    · rw [if_neg (by simpa using template)]
  have mapped := List.map_congr_left unchanged
  rw [List.map_id'] at mapped
  exact Store.eq_of_declared mapped

namespace Engine

variable {environment : Environment} {before after : Progress}

/-! ## The loops of the engines -/

theorem run_executeAll_cons (environment : Environment) (rule : Rule) (rules : List Rule)
    (before : Progress) :
    (Rule.executeAll environment (rule :: rules)).run.run before =
      let ended := (rule.execute environment).run.run before
      match ended.1 with
      | .ok () => (Rule.executeAll environment rules).run.run ended.2
      | .error signal => (.error signal, ended.2) := by
  rw [Rule.executeAll, Rule.executeAllAt, Execution.run_bind, Rule.execute, Rule.executeAll]
  rcases (rule.executeAt environment 1).run.run before with ⟨_ | _, after⟩ <;> rfl

/-- The loop that collects failures collects none, and meets no exit, exactly if the
rules can be executed as one block. -/
theorem collectFailures_eq_nil_iff (rules : List Rule) :
    (collectFailures environment rules).run before = (([], false), after) ↔
      (Rule.executeAll environment rules).run.run before = (.ok (), after) := by
  induction rules generalizing before with
  | nil =>
      constructor
      · intro collected
        cases collected
        rfl
      · intro executed
        cases executed
        rfl
  | cons rule rules induction =>
      rw [run_collectFailures_cons, run_executeAll_cons]
      generalize (rule.execute environment).run.run before = ended
      obtain ⟨result, progress⟩ := ended
      cases result with
      | ok _ =>
          rw [← induction]
          rfl
      | error signal =>
          refine ⟨fun collected => ?_, nofun⟩
          -- a signal is an exit or makes an entry
          match signal with
          | .interruption (.exit .response) => cases collected
          | .interruption (.exit .template) => cases collected
          | .interruption (.exit .test) => cases collected
          | .interruption .constraintUnsatisfied => cases collected
          | .failure error => cases collected

/-- Rules that can be executed as one block complete in every engine, which leaves what
the block leaves. -/
theorem run_uneventful (kind : ProcessingKind) {rules : List Rule}
    (atStart : before.store.TemplatesAtStart)
    (executed : (Rule.executeAll environment rules).run.run before = (.ok (), after)) :
    (run environment kind rules).run before = (.ok ⟨false, 1, true⟩, after) := by
  cases kind with
  | response =>
      have collected := (collectFailures_eq_nil_iff rules).mpr executed
      rw [run, runResponse, StateT.run_bind, collected]
      rfl
  | outcome =>
      rw [run, runOutcome, StateT.run_bind, executed]
      rfl
  | template =>
      have restarted : restart before = before := by
        rw [restart, atStart.resetTemplates_eq]
      obtain ⟨more, attempts⟩ :
          ∃ more, max environment.settings.maxTemplateAttempts 1 = more + 1 :=
        ⟨max environment.settings.maxTemplateAttempts 1 - 1, by omega⟩
      rw [run, runTemplate, attempts]
      rw [← restarted] at executed
      exact (run_attempt before 0 more executed).2 (by simp)

end Engine

namespace Processor

theorem Result.ofLoop_ok {ended : (List RuleError × Bool) × Progress} {report : Report}
    (completed : (ofLoop ended).outcome = .ok report) :
    ended.1 = ([], report.exited) ∧ report = ⟨report.exited, 1, true⟩ := by
  obtain ⟨⟨_ | _, exited⟩, after⟩ := ended
  · cases completed
    exact ⟨rfl, rfl⟩
  · cases completed

theorem run_of_engine_ok {environment : Environment} {kind : ProcessingKind}
    {rules : List Rule} {store : Store} {source : RandomSource} {report : Report}
    {after : Progress}
    (ran : (Engine.run environment kind rules).run ⟨store, source, #[]⟩ =
      (.ok report, after)) :
    (ofKind kind).run environment source (.ok rules) store =
      ⟨.ok report, ⟨kind, .completed, after.trace⟩, after.store⟩ := by
  simp only [run, ofKind, ne_eq, not_true_eq_false, if_false, ran]

/-- If response processing completes without an exit, and template variables have the
values that they start with, then processing of every kind completes with the same
report, trace and store. -/
theorem run_eq_of_uneventful (environment : Environment) (source : RandomSource)
    (rules : List Rule) {store : Store} (atStart : store.TemplatesAtStart) {report : Report}
    (completed :
      ((ofKind .response).run environment source (.ok rules) store).outcome = .ok report)
    (noExit : report.exited = false) (kind : ProcessingKind) :
    let response := (ofKind .response).run environment source (.ok rules) store
    report = ⟨false, 1, true⟩ ∧
      (ofKind kind).run environment source (.ok rules) store =
        ⟨.ok report, ⟨kind, .completed, response.processor.trace⟩, response.store⟩ := by
  intro response
  let loop := (Engine.collectFailures environment rules).run ⟨store, source, #[]⟩
  have responded : response = .ofLoop loop := run_response ..
  have completedLoop : (Result.ofLoop loop).outcome = .ok report := by
    rw [← responded]
    exact completed
  obtain ⟨collected, uneventful⟩ := Result.ofLoop_ok completedLoop
  rw [noExit] at collected uneventful
  have executed : (Rule.executeAll environment rules).run.run ⟨store, source, #[]⟩ =
      (.ok (), loop.2) :=
    (Engine.collectFailures_eq_nil_iff rules).mp (Prod.ext collected rfl)
  have ran := Engine.run_uneventful kind atStart executed
  refine ⟨uneventful, ?_⟩
  rw [run_of_engine_ok ran, responded, uneventful]
  rfl

/-- Draws a number, demands that there is one, and scores it in a conditional. -/
def drawAndScore : List Rule :=
  [.set .templateValue "A" (.randomInteger (.literal 1) (.literal 6) (.literal 1)),
    .constraint (.apply .not [.apply .isNull [.valueOf "A"]]),
    .condition .response (.arm (.baseValue (.boolean true))
      [.set .outcomeValue "SCORE" (.apply .sum [.valueOf "A", .valueOf "A"])] .done)]

theorem run_eq_of_uneventful_drawn :
    let store := Engine.scoreAndTemplate.store.resetTemplates
    let run := fun kind =>
      (ofKind kind).run ⟨.default, .standard⟩ (.ofSeed 7) (.ok drawAndScore) store
    store.TemplatesAtStart ∧ (run .response).outcome = .ok ⟨false, 1, true⟩ ∧
      (run .response).processor.trace.size = 4 ∧
      (run .template).outcome = .ok ⟨false, 1, true⟩ ∧
      (run .template).processor.trace = (run .response).processor.trace ∧
      (run .template).store = (run .response).store ∧
      (run .outcome).store = (run .response).store ∧
      (run .outcome).store ≠ store := by
  intro store run
  have atStart : store.TemplatesAtStart := by decide
  have completed : (run .response).outcome = .ok ⟨false, 1, true⟩ := by
    have reported : (run .response).outcome.toOption = some ⟨false, 1, true⟩ := by
      decide +kernel
    cases ended : (run .response).outcome with
    | ok report => rw [ended] at reported; exact congrArg _ (Option.some.inj reported)
    | error error => rw [ended] at reported; cases reported
  have same := fun kind =>
    (run_eq_of_uneventful ⟨.default, .standard⟩ (.ofSeed 7) drawAndScore atStart completed
      rfl kind).2
  refine ⟨atStart, completed, by decide +kernel, ?_, ?_, ?_, ?_, by decide +kernel⟩
  · rw [show run .template = _ from same .template]
  · rw [show run .template = _ from same .template]
  · rw [show run .template = _ from same .template]
  · rw [show run .outcome = _ from same .outcome]

end Processor

end Assessment
