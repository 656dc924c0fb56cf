import Assessment.Proofs.Attempts
import Assessment.Proofs.Succession

/-!
# Attempts that repeat each other

An attempt that is not satisfied is made again in the hope that other numbers are drawn.
If the rules draw nothing and assign nothing but template values, there is nothing to
hope for: the restart brings back the store that the attempt began with, and what is done
next depends on the store alone.  Such rules end in their first attempt or use up all of
them.
-/

namespace Assessment

namespace Engine

variable {environment : Environment} {rules : List Rule} {caller after : Progress}

/-- The restart after a discarded attempt brings back the store that it began with. -/
theorem resetTemplates_of_discarded
    (only : ∀ assignment ∈ Rule.assignmentsOfAll rules, assignment.kind = .templateValue)
    (distinct : caller.store.Distinct)
    (discarded : (Rule.executeAll environment rules).run.run (restart caller) =
      (.error (.interruption .constraintUnsatisfied), after)) :
    after.store.resetTemplates = caller.store.resetTemplates := by
  have begins : Begins environment rules caller 1 (restart after) := .again .first discarded
  have startDistinct : caller.store.resetTemplates.Distinct := by
    unfold Store.Distinct Store.resetTemplates
    rw [Store.identifiers_resetWhere]
    exact distinct
  exact begins.restarted.eq_of_templateValues startDistinct only

/-- What rules without draws do depends on the store alone. -/
theorem executeAll_continues (environment : Environment) (free : Rule.RandomFree rules)
    (before other : Progress) (same : before.store = other.store) (fresh : other.trace = #[]) :
    let ended := (Rule.executeAll environment rules).run.run before
    let otherEnded := (Rule.executeAll environment rules).run.run other
    ended.1 = otherEnded.1 ∧ Progress.Continues before.trace ended.2 otherEnded.2 := by
  have continues : Progress.Continues before.trace before other := by
    constructor
    · exact same
    · simp [fresh]
  have lockstep : Lockstep (Progress.Continues before.trace)
      (Rule.executeAll environment rules).run (Rule.executeAll environment rules).run :=
    free.partsInLockstep.executeAllAt 1 rules
  exact lockstep continues

/-- By induction on the attempts that are left: each of them begins with the store of the
first one, so it is discarded as that one was, with the same lines of the trace. -/
theorem run_attempt_of_discarded (free : Rule.RandomFree rules)
    (only : ∀ assignment ∈ Rule.assignmentsOfAll rules, assignment.kind = .templateValue)
    (distinct : caller.store.Distinct) (fresh : caller.trace = #[])
    (discarded : (Rule.executeAll environment rules).run.run (restart caller) =
      (.error (.interruption .constraintUnsatisfied), after))
    (done more : Nat) (progress : Progress)
    (same : progress.store.resetTemplates = caller.store.resetTemplates) :
    let ended := (attempt environment rules done more).run progress
    ended.1 = .ok ⟨false, done + more, false⟩ ∧
      ended.2.store = caller.store.resetTemplates ∧
      ended.2.trace.toList =
        progress.trace.toList ++ (List.replicate more after.trace.toList).flatten := by
  induction more generalizing done progress with
  | zero =>
      have trace : ((attempt environment rules done 0).run progress).2.trace = progress.trace := rfl
      refine ⟨rfl, same, ?_⟩
      simp [trace]
  | succ more induction =>
      rcases ended : (Rule.executeAll environment rules).run.run (restart progress)
        with ⟨result, later⟩
      obtain ⟨sameResult, continues⟩ :=
        executeAll_continues environment free (restart progress) (restart caller) same fresh
      rw [ended, discarded] at sameResult continues
      have restored : later.store.resetTemplates = caller.store.resetTemplates := by
        rw [show later.store = after.store from continues.store]
        exact resetTemplates_of_discarded only distinct discarded
      have again := (run_attempt progress done more ended).1 sameResult
      obtain ⟨report, store, trace⟩ := induction (done + 1) later restored
      simp only [again]
      refine ⟨?_, store, ?_⟩
      · rw [report, Nat.add_right_comm, Nat.add_assoc]
      · rw [trace, show later.trace = _ from continues.trace]
        simp [restart, List.replicate_succ]

end Engine

namespace Processor

theorem run_of_rules (environment : Environment) (source : RandomSource)
    (kind : ProcessingKind) (rules : List Rule) (store : Store) :
    let ended := (Engine.run environment kind rules).run ⟨store, source, #[]⟩
    let result := (ofKind kind).run environment source (.ok rules) store
    result.outcome = ended.1 ∧ result.store = ended.2.store ∧
      result.processor.trace = ended.2.trace := by
  simp only [run, ofKind, ne_eq, not_true_eq_false, if_false]
  rcases (Engine.run environment kind rules).run ⟨store, source, #[]⟩ with ⟨outcome, after⟩
  exact ⟨rfl, rfl, rfl⟩

/-- Template processing of rules that draw nothing and assign nothing but template values
ends in the first attempt, as that attempt ends.  But if its constraints are not
satisfied, they are not in any attempt that is allowed: each one makes the same lines of
the trace, and in the end nothing has changed but that template variables are reset. -/
theorem run_template_retried (environment : Environment) {rules : List Rule}
    (free : Rule.RandomFree rules)
    (only : ∀ assignment ∈ Rule.assignmentsOfAll rules, assignment.kind = .templateValue)
    {store : Store} (distinct : store.Distinct) (source : RandomSource) :
    let limit := max environment.settings.maxTemplateAttempts 1
    let start := store.resetTemplates
    let first := (Rule.executeAll environment rules).run.run ⟨start, source, #[]⟩
    let final := (ofKind .template).run environment source (.ok rules) store
    (first.1 ≠ .error (.interruption .constraintUnsatisfied) →
      final.outcome = Engine.conclude 1 first.1 ∧ final.store = first.2.store ∧
        final.processor.trace = first.2.trace) ∧
    (first.1 = .error (.interruption .constraintUnsatisfied) →
      final.outcome = .ok ⟨false, limit, false⟩ ∧ final.store = start ∧
        final.processor.trace = (Array.replicate limit first.2.trace).flatten) := by
  intro limit start first final
  let caller : Progress := ⟨store, source, #[]⟩
  obtain ⟨outcome, sameStore, trace⟩ := run_of_rules environment source .template rules store
  have attempts : Engine.run environment .template rules =
      Engine.attempt environment rules 0 limit := rfl
  rw [attempts] at outcome sameStore trace
  rcases ended : first with ⟨result, after⟩
  have ran : (Rule.executeAll environment rules).run.run (Engine.restart caller) =
      (result, after) := ended
  constructor
  · intro decided
    obtain ⟨more, oneMore⟩ : ∃ more, limit = more + 1 := ⟨limit - 1, by omega⟩
    have concluded := (Engine.run_attempt caller 0 more ran).2 decided
    rw [oneMore, concluded] at outcome sameStore trace
    exact ⟨outcome, sameStore, trace⟩
  · intro unsatisfied
    rw [show result = _ from unsatisfied] at ran
    obtain ⟨report, restored, lines⟩ :=
      Engine.run_attempt_of_discarded free only distinct rfl ran 0 limit caller rfl
    rw [Nat.zero_add] at report
    refine ⟨outcome.trans report, sameStore.trans restored, ?_⟩
    rw [show final.processor.trace = _ from trace, ← Array.toList_inj,
      show Array.toList _ = _ from lines]
    simp [caller]

/-- Counts a template variable up and demands that it is NULL. -/
def countAndDemandNull : List Rule :=
  [.condition .template (.arm (.apply .not [.apply .isNull [.valueOf "A"]])
      [.set .templateValue "A" (.apply .sum [.valueOf "A", .baseValue (.integer 1)])] .done),
    .constraint (.apply .isNull [.valueOf "A"])]

theorem run_template_retried_counting :
    let environment : Environment :=
      ⟨{ Settings.default with maxTemplateAttempts := 3 }, .standard⟩
    let store := Engine.scoreAndTemplate.store
    let first := (Rule.executeAll environment countAndDemandNull).run.run
      ⟨store.resetTemplates, .ofSeed 0, #[]⟩
    let final :=
      (ofKind .template).run environment (.ofSeed 0) (.ok countAndDemandNull) store
    Rule.RandomFree countAndDemandNull ∧ store.Distinct ∧
      first.2.store.value? "A" = some (.integer 2) ∧ first.2.trace.size = 3 ∧
      final.outcome = .ok ⟨false, 3, false⟩ ∧ final.store = store.resetTemplates ∧
      final.store.value? "A" = some (.integer 1) ∧
      final.processor.trace = (Array.replicate 3 first.2.trace).flatten := by
  intro environment store first final
  have free : Rule.RandomFree countAndDemandNull := by decide
  have only : ∀ assignment ∈ Rule.assignmentsOfAll countAndDemandNull,
      assignment.kind = .templateValue := by
    intro assignment member
    rw [List.mem_singleton.mp member]
  have distinct : store.Distinct := by
    unfold Store.Distinct
    decide
  have unsatisfied : first.1 = .error (.interruption .constraintUnsatisfied) := rfl
  have limit : max environment.settings.maxTemplateAttempts 1 = 3 := rfl
  obtain ⟨_, exhausted⟩ := run_template_retried environment free only distinct (.ofSeed 0)
  obtain ⟨outcome, restored, trace⟩ := exhausted unsatisfied
  rw [limit] at outcome trace
  have value : final.store.value? "A" = some (.integer 1) := by
    rw [show final.store = _ from restored]
    decide +kernel
  refine ⟨free, distinct, by decide +kernel, by decide +kernel, outcome, restored, value, ?_⟩
  simp only [final, first]
  exact trace

end Processor

end Assessment
