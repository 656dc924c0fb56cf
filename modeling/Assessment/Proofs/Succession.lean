import Assessment.Proofs.Drawless
import Assessment.Proofs.Lockstep

/-!
# Rules in succession

Response processing of a list of rules can be cut into two runs.  The second one starts
afresh, with its own random source and an empty trace, on the store that the first one
left; together they do what one run does, unless the first one meets an exit of the
response.  Rules that draw are left out, because the second run does not know what the
first one drew.
-/

namespace Assessment

namespace Engine

/-! ## The loop of response processing -/

/-- Whether a rule has ended with the exit that response processing stops at. -/
def exits : Except Signal Unit → Bool
  | .error (.interruption (.exit .response)) => true
  | _ => false

/-- The entry that a rule makes in the list of failures. -/
def failure? : Except Signal Unit → Option RuleError
  | .ok () => none
  | .error (.interruption (.exit .response)) => none
  | .error signal => some (signal.asError .response)

/-- What the rules end with that response processing executes, one after another. -/
def endings (environment : Environment) : List Rule → Progress → List (Except Signal Unit)
  | [], _ => []
  | rule :: rules, progress =>
      let ended := (rule.execute environment).run.run progress
      ended.1 :: if exits ended.1 then [] else endings environment rules ended.2

theorem run_collectFailures_cons (environment : Environment) (rule : Rule)
    (rules : List Rule) (before : Progress) :
    (collectFailures environment (rule :: rules)).run before =
      let ended := (rule.execute environment).run.run before
      if exits ended.1 then (([], true), ended.2)
      else
        let rest := (collectFailures environment rules).run ended.2
        (((failure? ended.1).toList ++ rest.1.1, rest.1.2), rest.2) := by
  rw [collectFailures, StateT.run_bind]
  generalize (rule.execute environment).run.run before = ended
  obtain ⟨result, after⟩ := ended
  match result with
  | .ok () => rfl
  | .error (.interruption (.exit .response)) => rfl
  | .error (.interruption (.exit .template)) => rfl
  | .error (.interruption (.exit .test)) => rfl
  | .error (.interruption .constraintUnsatisfied) => rfl
  | .error (.failure error) => rfl

/-- The loop has an entry for each executed rule that failed, in their order. -/
theorem run_collectFailures (environment : Environment) (rules : List Rule)
    (before : Progress) :
    ((collectFailures environment rules).run before).1 =
      ((endings environment rules before).filterMap failure?,
        (endings environment rules before).any exits) := by
  induction rules generalizing before with
  | nil => rfl
  | cons rule rules induction =>
      rw [run_collectFailures_cons, endings]
      generalize (rule.execute environment).run.run before = ended
      by_cases exit : exits ended.1
      · have noFailure : failure? ended.1 = none := by
          unfold exits at exit
          split at exit
          next stopped => rw [stopped]; rfl
          next => cases exit
        simp [exit, noFailure]
      · simp only [exit, Bool.false_eq_true, if_false, induction, List.any_cons,
          Bool.false_or]
        cases entry : failure? ended.1 <;> simp [entry]

/-- The loop over more rules goes on where it ends over the first ones, unless it
exits there. -/
theorem run_collectFailures_append (environment : Environment) (rules more : List Rule)
    (before : Progress) :
    (collectFailures environment (rules ++ more)).run before =
      let first := (collectFailures environment rules).run before
      if first.1.2 then first
      else
        let second := (collectFailures environment more).run first.2
        ((first.1.1 ++ second.1.1, second.1.2), second.2) := by
  induction rules generalizing before with
  | nil => rfl
  | cons rule rules induction =>
      rw [List.cons_append, run_collectFailures_cons, run_collectFailures_cons]
      generalize (rule.execute environment).run.run before = ended
      by_cases exit : exits ended.1
      · simp [exit]
      · simp only [exit, Bool.false_eq_true, if_false, induction]
        by_cases later : ((collectFailures environment rules).run ended.2).1.2
        · simp [later]
        · simp [later]

end Engine

/-! ## Runs from the same store -/

/-- The same store, and a trace with earlier lines before those of the other one. -/
structure Progress.Continues (earlier : Array String) (before other : Progress) : Prop where
  store : before.store = other.store
  trace : before.trace = earlier ++ other.trace

section Continues

variable {earlier : Array String} {environment : Environment}

theorem Execution.evaluate_continues (rule : String) {expression : Expression}
    (free : expression.isRandom = false) :
    Lockstep (Progress.Continues earlier) (evaluate environment rule expression).run
      (evaluate environment rule expression).run := by
  intro before other continues
  obtain ⟨result, same⟩ := expression.evaluate_drawless (environment.over other.store) free
  rw [run_evaluate, run_evaluate, continues.store, same, same]
  exact ⟨rfl, rfl, continues.trace⟩

/-- What rules without draws do depends on the store alone. -/
theorem Rule.RandomFree.partsInLockstep {rules : List Rule} (free : RandomFree rules) :
    PartsInLockstep (Progress.Continues earlier) environment (conditionsOfAll rules)
      (assignmentsOfAll rules) where
  noted line continues :=
    ⟨continues.store, by simp [Progress.note, continues.trace]⟩
  conditions condition member rule :=
    Execution.evaluate_continues rule (free.conditions condition member)
  assignments assignment member := by
    intro before other continues
    obtain ⟨result, after, same⟩ := assignment.execute_drawless environment
      (free.assignments assignment member) other.store
    have executed := same before.source before.trace
    rw [← continues.store] at executed
    rw [executed, same]
    exact ⟨rfl, rfl, continues.trace⟩

end Continues

/-- The loop over all rules compared with two loops that only pass on the store. -/
theorem Engine.collectFailures_append (environment : Environment) {rules more : List Rule}
    (free : Rule.RandomFree rules) (moreFree : Rule.RandomFree more) (store : Store)
    (source firstSource secondSource : RandomSource) :
    let whole := (collectFailures environment (rules ++ more)).run ⟨store, source, #[]⟩
    let first := (collectFailures environment rules).run ⟨store, firstSource, #[]⟩
    let second := (collectFailures environment more).run ⟨first.2.store, secondSource, #[]⟩
    (first.1.2 = true → whole.1 = first.1 ∧ Progress.Continues #[] whole.2 first.2) ∧
      (first.1.2 = false → whole.1 = (first.1.1 ++ second.1.1, second.1.2) ∧
        Progress.Continues first.2.trace whole.2 second.2) := by
  intro whole first second
  let begun := (collectFailures environment rules).run ⟨store, source, #[]⟩
  let rest := (collectFailures environment more).run begun.2
  have cut : whole = if begun.1.2 then begun else ((begun.1.1 ++ rest.1.1, rest.1.2), rest.2) :=
    run_collectFailures_append environment rules more _
  have sameStart : Progress.Continues #[] ⟨store, source, #[]⟩ ⟨store, firstSource, #[]⟩ :=
    ⟨rfl, rfl⟩
  obtain ⟨(sameBegun : begun.1 = first.1), (continues : Progress.Continues #[] begun.2 first.2)⟩ :=
    collectFailures_lockstep rules free.partsInLockstep sameStart
  have afresh : Progress.Continues first.2.trace begun.2 ⟨first.2.store, secondSource, #[]⟩ :=
    ⟨continues.store, by simpa using continues.trace⟩
  obtain ⟨(sameRest : rest.1 = second.1), restContinues⟩ :=
    collectFailures_lockstep more moreFree.partsInLockstep afresh
  constructor
  · intro exited
    rw [cut, if_pos (by rw [sameBegun, exited])]
    exact ⟨sameBegun, continues⟩
  · intro proceeded
    rw [cut, if_neg (by simp [sameBegun, proceeded])]
    exact ⟨by rw [sameBegun, sameRest], restContinues⟩

namespace Processor

/-- What a run failed with, nothing if it succeeded. -/
def Result.failures (result : Result) : List RuleError :=
  match result.outcome with
  | .ok _ => []
  | .error error => error.failures

/-- What response processing gives when its loop over the rules has ended like this. -/
def Result.ofLoop (ended : (List RuleError × Bool) × Progress) : Result where
  outcome :=
    if ended.1.1.isEmpty then .ok ⟨ended.1.2, 1, true⟩ else .error (.aggregate ended.1.1)
  processor :=
    ⟨.response, if ended.1.1.isEmpty then .completed else .failed, ended.2.trace⟩
  store := ended.2.store

theorem run_response (environment : Environment) (source : RandomSource)
    (rules : List Rule) (store : Store) :
    (ofKind .response).run environment source (.ok rules) store =
      .ofLoop ((Engine.collectFailures environment rules).run ⟨store, source, #[]⟩) := by
  have ran : (Engine.runResponse environment rules).run ⟨store, source, #[]⟩ =
      let ended := (Engine.collectFailures environment rules).run ⟨store, source, #[]⟩
      (if ended.1.1.isEmpty then .ok ⟨ended.1.2, 1, true⟩ else .error (.aggregate ended.1.1),
        ended.2) :=
    rfl
  simp only [run, ofKind, Engine.run, ne_eq, not_true_eq_false, if_false, ran]
  rcases (Engine.collectFailures environment rules).run ⟨store, source, #[]⟩
    with ⟨⟨_ | _, exited⟩, after⟩ <;> rfl

namespace Result

variable {ended other : (List RuleError × Bool) × Progress}

theorem failures_ofLoop : (ofLoop ended).failures = ended.1.1 := by
  obtain ⟨⟨_ | _, exited⟩, after⟩ := ended <;> rfl

theorem succeeds_ofLoop : (∃ report, (ofLoop ended).outcome = .ok report) ↔ ended.1.1 = [] := by
  obtain ⟨⟨_ | _, exited⟩, after⟩ := ended
  · exact ⟨fun _ => rfl, fun _ => ⟨_, rfl⟩⟩
  · exact ⟨nofun, nofun⟩

theorem ofLoop_eq (sameResult : ended.1 = other.1)
    (continues : Progress.Continues #[] ended.2 other.2) : ofLoop ended = ofLoop other := by
  have sameTrace : ended.2.trace = other.2.trace := by simpa using continues.trace
  simp only [ofLoop, sameResult, continues.store, sameTrace]

end Result

/-- Response processing of rules and then, if they have not exited, of more rules has
the effect of response processing of all of them: the same store in the end, the
failures and the traces one after another, and success if there is no failure in either
part. -/
theorem run_response_append (environment : Environment) {rules more : List Rule}
    (free : Rule.RandomFree rules) (moreFree : Rule.RandomFree more) (store : Store)
    (source firstSource secondSource : RandomSource) :
    let whole := (ofKind .response).run environment source (.ok (rules ++ more)) store
    let first := (ofKind .response).run environment firstSource (.ok rules) store
    let second := (ofKind .response).run environment secondSource (.ok more) first.store
    let exited := (Engine.endings environment rules ⟨store, firstSource, #[]⟩).any Engine.exits
    (exited = true → whole = first) ∧
      (exited = false →
        whole.store = second.store ∧
        whole.failures = first.failures ++ second.failures ∧
        whole.processor.trace = first.processor.trace ++ second.processor.trace ∧
        (first.failures = [] → whole.outcome = second.outcome)) ∧
      whole.failures =
        (Engine.endings environment (rules ++ more) ⟨store, source, #[]⟩).filterMap
          Engine.failure? ∧
      ((∃ report, whole.outcome = .ok report) ↔ whole.failures = []) := by
  intro whole first second exited
  let wholeLoop :=
    (Engine.collectFailures environment (rules ++ more)).run ⟨store, source, #[]⟩
  let firstLoop := (Engine.collectFailures environment rules).run ⟨store, firstSource, #[]⟩
  let secondLoop :=
    (Engine.collectFailures environment more).run ⟨firstLoop.2.store, secondSource, #[]⟩
  have wholeRun : whole = .ofLoop wholeLoop := run_response ..
  have firstRun : first = .ofLoop firstLoop := run_response ..
  have secondRun : second = .ofLoop secondLoop := by
    rw [show second = _ from run_response .., firstRun]
    rfl
  have exitedLoop : firstLoop.1.2 = exited :=
    congrArg Prod.snd (Engine.run_collectFailures ..)
  obtain ⟨stopped, proceeded⟩ := Engine.collectFailures_append environment free moreFree store
    source firstSource secondSource
  refine ⟨fun exit => ?_, fun noExit => ?_, ?_, ?_⟩
  · obtain ⟨sameResult, continues⟩ := stopped (exitedLoop.trans exit)
    rw [wholeRun, firstRun]
    exact Result.ofLoop_eq sameResult continues
  · obtain ⟨results, continues⟩ := proceeded (exitedLoop.trans noExit)
    rw [wholeRun, firstRun, secondRun]
    refine ⟨continues.store, ?_, continues.trace, fun noFailures => ?_⟩
    · simp only [Result.failures_ofLoop]
      exact congrArg Prod.fst results
    · rw [Result.failures_ofLoop] at noFailures
      have sameLoop : wholeLoop.1 = secondLoop.1 := by
        rw [show wholeLoop.1 = _ from results, show firstLoop.1.1 = [] from noFailures]
        rfl
      simp only [Result.ofLoop, sameLoop]
  · rw [wholeRun, Result.failures_ofLoop]
    exact congrArg Prod.fst (Engine.run_collectFailures ..)
  · rw [wholeRun, Result.failures_ofLoop]
    exact Result.succeeds_ofLoop

/-- A rule that completes, one that fails, and one that writes a score before an exit
that response processing does not handle. -/
def scoringWithFailures : List Rule :=
  [.set .outcomeValue "SCORE" (.baseValue (.integer 1)),
    .set .outcomeValue "MISSING" (.baseValue (.integer 1)),
    .fragment .response
      [.set .outcomeValue "SCORE" (.apply .sum [.valueOf "SCORE", .valueOf "SCORE"]),
        .exit .template]]

/-- Rules that build on a score and exit before the last one. -/
def scoringWithExit : List Rule :=
  [.set .outcomeValue "SCORE" (.apply .sum [.valueOf "SCORE", .valueOf "SCORE"]),
    .exit .response,
    .set .outcomeValue "SCORE" (.baseValue (.integer 0))]

theorem run_response_append_scored :
    let store : Store :=
      ⟨[⟨"SCORE", .single .integer, .outcome ⟨none, none, none, none⟩, .integer 0, .null⟩]⟩
    let run := fun rules source store =>
      (ofKind .response).run ⟨.default, .standard⟩ source (.ok rules) store
    let whole := run (scoringWithFailures ++ scoringWithExit) (.ofSeed 1) store
    let first := run scoringWithFailures (.ofSeed 2) store
    let second := run scoringWithExit (.ofSeed 3) first.store
    Rule.RandomFree scoringWithFailures ∧ Rule.RandomFree scoringWithExit ∧
      whole.store = second.store ∧ second.store.value? "SCORE" = some (.integer 4) ∧
      whole.failures = first.failures ++ second.failures ∧
      first.failures = [.store "setOutcomeValue" (.unknownVariable "MISSING"),
        .unexpectedSignal (.exit .template) .response] ∧
      second.outcome = .ok ⟨true, 1, true⟩ ∧
      run (scoringWithExit ++ scoringWithFailures) (.ofSeed 1) store =
        run scoringWithExit (.ofSeed 2) store := by
  intro store run whole first second
  have free : Rule.RandomFree scoringWithFailures := by decide
  have moreFree : Rule.RandomFree scoringWithExit := by decide
  obtain ⟨_, proceeded, _, _⟩ := run_response_append ⟨.default, .standard⟩ free moreFree store
    (.ofSeed 1) (.ofSeed 2) (.ofSeed 3)
  obtain ⟨stopped, _, _, _⟩ := run_response_append ⟨.default, .standard⟩ moreFree free store
    (.ofSeed 1) (.ofSeed 2) (.ofSeed 3)
  obtain ⟨sameStore, failures, _, _⟩ := proceeded (by decide +kernel)
  exact ⟨free, moreFree, sameStore, by decide +kernel, failures, by decide +kernel,
    rfl, stopped (by decide +kernel)⟩

end Processor

end Assessment
