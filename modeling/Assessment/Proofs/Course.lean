import Assessment.Proofs.Lockstep

/-!
# Courses of executions

However rules are nested, they are entered one after another.  A rule that was entered
lets the run go on, or it ends the run with a signal; only the last one can do that.
The course of an execution is this sequence of entered rules.  It is read off the
execution here, and what holds of every course needs no recursion into rule trees any
more.
-/

namespace Assessment

variable {environment : Environment}

/-! ## How assignments end -/

/-- The name of the rule that an error is about. -/
def RuleError.rule? : RuleError → Option String
  | .expression rule _ => some rule
  | .store rule _ => some rule
  | .invalidTarget rule _ _ => some rule
  | .unsupported rule => some rule
  | .unexpectedSignal .. => none
  | .depthExceeded _ => none
  | .templateNotFound _ => none
  | .templateFailed .. => none

/-- The name of the rule that a signal is about. -/
def Signal.rule? : Signal → Option String
  | .interruption cause => some cause.name
  | .failure error => error.rule?

namespace Assignment

theorem rule?_of_target? {assignment : Assignment} {store : Store} {error : RuleError}
    (failed : assignment.target? store = .error error) :
    error.rule? = some assignment.kind.className := by
  unfold target? at failed
  split at failed
  next => cases failed; rfl
  next =>
    split at failed
    next => cases failed
    next =>
      split at failed
      next => cases failed
      next => cases failed; rfl

theorem rule?_of_lookUp {v : Variable} {value : Value} {error : RuleError}
    (failed : v.lookUp value = .error error) :
    error.rule? = some AssignmentKind.outcomeLookup.className := by
  unfold Variable.lookUp at failed
  split at failed
  next => cases failed; rfl
  next =>
    split at failed
    next => cases failed
    next =>
      split at failed
      next => cases failed
      next => cases failed; rfl
    next => cases failed; rfl

theorem rule?_of_written {assignment : Assignment} {v : Variable} {value : Value}
    {error : RuleError} (failed : assignment.written v value = .error error) :
    error.rule? = some assignment.kind.className := by
  unfold written at failed
  split at failed
  next lookup =>
    rw [lookup]
    exact rule?_of_lookUp failed
  next => cases failed

/-- An assignment ends with an error about itself, or it completes; neither makes a line
of the trace. -/
theorem execute_ends (assignment : Assignment) (progress : Progress) :
    (∃ error source, (assignment.execute environment).run.run progress =
        (.error (.failure error), { progress with source }) ∧
      error.rule? = some assignment.kind.className) ∨
    ∃ store source, (assignment.execute environment).run.run progress =
      (.ok (), { progress with store, source }) := by
  rw [run_execute]
  cases target : assignment.target? progress.store with
  | error error => exact .inl ⟨error, _, rfl, rule?_of_target? target⟩
  | ok v =>
      simp only [Execution.run_bind, Execution.run_evaluate]
      rcases (assignment.expression.evaluate
        (environment.over progress.store)).run.run progress.source with ⟨cause | value, source⟩
      · exact .inl ⟨_, source, rfl, rfl⟩
      · simp only [Execution.ofEvaluated, store_eq]
        cases found : assignment.written v value with
        | error error => exact .inl ⟨error, source, rfl, rule?_of_written found⟩
        | ok wanted =>
            simp only [Execution.run_write]
            cases progress.store.assign assignment.kind assignment.target wanted with
            | error cause => exact .inl ⟨_, source, rfl, rfl⟩
            | ok store => exact .inr ⟨store, source, rfl⟩

variable {assignment : Assignment} {before after : Progress}

theorem trace_of_run {result : Except Signal Unit}
    (ran : (assignment.execute environment).run.run before = (result, after)) :
    after.trace = before.trace := by
  rcases assignment.execute_ends before with ⟨_, _, ended, _⟩ | ⟨_, _, ended⟩
  · rw [ended] at ran
    cases ran
    rfl
  · rw [ended] at ran
    cases ran
    rfl

theorem rule?_of_run {error : RuleError}
    (ran : (assignment.execute environment).run.run before = (.error (.failure error), after)) :
    error.rule? = some assignment.kind.className := by
  rcases assignment.execute_ends before with ⟨_, _, ended, names⟩ | ⟨_, _, ended⟩
  · rw [ended] at ran
    cases ran
    exact names
  · rw [ended] at ran
    cases ran

end Assignment

/-! ## Entered rules -/

mutual

/-- The rules that are entered, in their order, when a rule at the given depth is
executed. -/
def Rule.enteredAt (environment : Environment) (depth : Nat) (rule : Rule)
    (before : Progress) : List Rule :=
  if environment.settings.maxRuleDepth < depth then []
  else
    rule ::
      match rule with
      | .condition family arms =>
          Arms.enteredAt environment family.conditionName (depth + 1) arms
            (before.note rule.line)
      | .fragment _ rules =>
          Rule.enteredAllAt environment (depth + 1) rules (before.note rule.line)
      | .assign _ => []
      | .exit _ => []
      | .constraint _ => []
      | .branch .. => []

def Arms.enteredAt (environment : Environment) (name : String) (depth : Nat) (arms : Arms)
    (before : Progress) : List Rule :=
  match arms with
  | .done => []
  | .otherwise rules => Rule.enteredAllAt environment depth rules before
  | .arm guard rules rest =>
      match (Execution.evaluate environment name guard).run.run before with
      | (.error _, _) => []
      | (.ok verdict, after) =>
          if verdict.isTrue then Rule.enteredAllAt environment depth rules after
          else Arms.enteredAt environment name depth rest after

/-- The rules that are entered when a list of rules is executed. -/
def Rule.enteredAllAt (environment : Environment) (depth : Nat) (rules : List Rule)
    (before : Progress) : List Rule :=
  match rules with
  | [] => []
  | rule :: rest =>
      Rule.enteredAt environment depth rule before ++
        match (Rule.executeAt environment depth rule).run.run before with
        | (.error _, _) => []
        | (.ok (), after) => Rule.enteredAllAt environment depth rest after

end

mutual

/-- Rules are entered in the order of the document, though not all of them. -/
theorem Rule.enteredAt_sublist (depth : Nat) (rule : Rule) (before : Progress) :
    (rule.enteredAt environment depth before).Sublist rule.preorder := by
  rw [Rule.enteredAt.eq_def]
  split
  · exact List.nil_sublist _
  · cases rule with
    | condition family arms =>
        exact (Arms.enteredAt_sublist family.conditionName (depth + 1) arms _).cons_cons _
    | fragment family rules =>
        exact (Rule.enteredAllAt_sublist (depth + 1) rules _).cons_cons _
    | assign | exit | constraint | branch => exact List.Sublist.refl _

theorem Arms.enteredAt_sublist (name : String) (depth : Nat) (arms : Arms)
    (before : Progress) : (arms.enteredAt environment name depth before).Sublist arms.preorder := by
  cases arms with
  | done => exact List.Sublist.refl _
  | otherwise rules => exact Rule.enteredAllAt_sublist depth rules before
  | arm guard rules rest =>
      rw [Arms.enteredAt, Arms.preorder]
      rcases (Execution.evaluate environment name guard).run.run before with ⟨_ | verdict, after⟩
      · exact List.nil_sublist _
      · simp only
        split
        · exact (Rule.enteredAllAt_sublist depth rules after).trans
            (List.sublist_append_left _ _)
        · exact (Arms.enteredAt_sublist name depth rest after).trans
            (List.sublist_append_right _ _)

theorem Rule.enteredAllAt_sublist (depth : Nat) (rules : List Rule) (before : Progress) :
    (Rule.enteredAllAt environment depth rules before).Sublist (Rule.preorderOfAll rules) := by
  cases rules with
  | nil => exact List.Sublist.refl _
  | cons rule rules =>
      rw [Rule.enteredAllAt, Rule.preorderOfAll]
      refine (Rule.enteredAt_sublist depth rule before).append ?_
      rcases (rule.executeAt environment depth).run.run before with ⟨_ | _, after⟩
      · exact List.nil_sublist _
      · exact Rule.enteredAllAt_sublist depth rules after

end

/-! ## Rules that pass and rules that end the run -/

/-- The rule, once entered, lets the run go on.  An assignment has been executed; of the
other rules, nothing remains but draws for their guards and constraints. -/
inductive Rule.Passes (environment : Environment) : Rule → Progress → Progress → Prop where
  | assign {assignment : Assignment} {before after : Progress} :
      (assignment.execute environment).run.run before = (.ok (), after) →
      Rule.Passes environment (.assign assignment) before after
  | condition {family : RuleFamily} {arms : Arms} {before : Progress} (source : RandomSource) :
      Rule.Passes environment (.condition family arms) before { before with source }
  | constraint {condition : Expression} {before : Progress} (source : RandomSource) :
      Rule.Passes environment (.constraint condition) before { before with source }
  | fragment {family : RuleFamily} {rules : List Rule} {before : Progress} :
      Rule.Passes environment (.fragment family rules) before before

/-- The rule, once entered, ends the run with a signal.  Rules with others inside do so
if these stand too deep. -/
inductive Rule.Raises (environment : Environment) :
    Rule → Progress → Signal → Progress → Prop where
  | assign {assignment : Assignment} {before after : Progress} {error : RuleError} :
      (assignment.execute environment).run.run before = (.error (.failure error), after) →
      Rule.Raises environment (.assign assignment) before (.failure error) after
  | guard {family : RuleFamily} {arms : Arms} {before : Progress} (cause : EvalError)
      (source : RandomSource) :
      Rule.Raises environment (.condition family arms) before
        (.failure (.expression family.conditionName cause)) { before with source }
  | exit {kind : ExitKind} {before : Progress} :
      Rule.Raises environment (.exit kind) before (.interruption (.exit kind)) before
  | constraint {condition : Expression} {before : Progress} (cause : EvalError)
      (source : RandomSource) :
      Rule.Raises environment (.constraint condition) before
        (.failure (.expression "templateConstraint" cause)) { before with source }
  | unsatisfied {condition : Expression} {before : Progress} (source : RandomSource) :
      Rule.Raises environment (.constraint condition) before
        (.interruption .constraintUnsatisfied) { before with source }
  | branch {target : String} {guard : Expression} {before : Progress} :
      Rule.Raises environment (.branch target guard) before
        (.failure (.unsupported "branchRule")) before
  | deepCondition {family : RuleFamily} {arms : Arms} {before : Progress}
      (source : RandomSource) :
      Rule.Raises environment (.condition family arms) before
        (.failure (.depthExceeded environment.settings.maxRuleDepth)) { before with source }
  | deepFragment {family : RuleFamily} {rules : List Rule} {before : Progress} :
      Rule.Raises environment (.fragment family rules) before
        (.failure (.depthExceeded environment.settings.maxRuleDepth)) before

/-- The rules that a run enters one after another, with the progress before them, the
result of the run and the progress after it. -/
inductive Course (environment : Environment) :
    Progress → List Rule → Except Signal Unit → Progress → Prop where
  | finished {progress : Progress} : Course environment progress [] (.ok ()) progress
  | passed {rule : Rule} {rules : List Rule} {before middle after : Progress}
      {result : Except Signal Unit} :
      rule.Passes environment (before.note rule.line) middle →
      Course environment middle rules result after →
      Course environment before (rule :: rules) result after
  | raised {rule : Rule} {before after : Progress} {signal : Signal} :
      rule.Raises environment (before.note rule.line) signal after →
      Course environment before [rule] (.error signal) after

theorem Course.append {before middle after : Progress} {entered more : List Rule}
    {result : Except Signal Unit}
    (first : Course environment before entered (.ok ()) middle)
    (second : Course environment middle more result after) :
    Course environment before (entered ++ more) result after := by
  generalize completed : (.ok () : Except Signal Unit) = ended at first
  induction first with
  | finished => exact second
  | passed passes _ induction => exact .passed passes (induction second completed)
  | raised => cases completed

/-- The last rule that was entered is the one that raised the signal; those before it
passed. -/
theorem Course.cut {before after : Progress} {entered : List Rule} {signal : Signal}
    (course : Course environment before entered (.error signal) after) :
    ∃ passed rule middle, entered = passed ++ [rule] ∧
      Course environment before passed (.ok ()) middle ∧
      rule.Raises environment (middle.note rule.line) signal after := by
  generalize failed : (.error signal : Except Signal Unit) = ended at course
  induction course with
  | finished => cases failed
  | @passed first _ _ _ _ _ passes _ induction =>
      obtain ⟨passed, rule, middle, rfl, rest, raises⟩ := induction failed
      exact ⟨first :: passed, rule, middle, rfl, .passed passes rest, raises⟩
  | @raised rule before _ _ raises =>
      cases failed
      exact ⟨[], rule, before, rfl, .finished, raises⟩

/-! ## Every execution takes a course -/

theorem Rule.enteredAt_deep {depth : Nat} (deep : environment.settings.maxRuleDepth < depth)
    (rule : Rule) (before : Progress) : rule.enteredAt environment depth before = [] := by
  rw [enteredAt.eq_def, if_pos deep]

/-- A rule passes or ends the run with the block inside it: the block takes its course,
or it is empty, or it stands too deep. -/
theorem Course.block {rule : Rule} {before middle : Progress} {depth : Nat}
    {rules : List Rule} (passes : rule.Passes environment (before.note rule.line) middle)
    (deep : rule.Raises environment (before.note rule.line)
      (.failure (.depthExceeded environment.settings.maxRuleDepth)) middle)
    (inside : depth ≤ environment.settings.maxRuleDepth →
      Course environment middle (Rule.enteredAllAt environment depth rules middle)
        ((Rule.executeAllAt environment depth rules).run.run middle).1
        ((Rule.executeAllAt environment depth rules).run.run middle).2) :
    Course environment before (rule :: Rule.enteredAllAt environment depth rules middle)
      ((Rule.executeAllAt environment depth rules).run.run middle).1
      ((Rule.executeAllAt environment depth rules).run.run middle).2 := by
  by_cases shallow : depth ≤ environment.settings.maxRuleDepth
  · exact .passed passes (inside shallow)
  · cases rules with
    | nil => exact .passed passes .finished
    | cons first rest =>
        have tooDeep := Nat.lt_of_not_le shallow
        rw [Rule.enteredAllAt, Rule.enteredAt_deep tooDeep, Rule.run_executeAllAt_cons,
          Rule.run_executeAt_deep tooDeep]
        exact .raised deep

mutual

theorem Rule.executeAt_course {depth : Nat}
    (shallow : depth ≤ environment.settings.maxRuleDepth) (rule : Rule) (before : Progress) :
    Course environment before (rule.enteredAt environment depth before)
      ((rule.executeAt environment depth).run.run before).1
      ((rule.executeAt environment depth).run.run before).2 := by
  rw [Rule.enteredAt.eq_def, if_neg (Nat.not_lt.mpr shallow), Rule.executeAt.eq_def,
    Execution.run_enter_bind shallow]
  cases rule with
  | assign assignment =>
      rcases assignment.execute_ends (before.note (Rule.assign assignment).line) with
        ⟨error, source, ran, _⟩ | ⟨store, source, ran⟩
      · dsimp only
        rw [ran]
        exact .raised (.assign ran)
      · dsimp only
        rw [ran]
        exact .passed (.assign ran) .finished
  | condition family arms =>
      exact Arms.executeAt_course arms arms before
        (before.note (Rule.condition family arms).line).source
  | exit kind => exact .raised .exit
  | constraint condition =>
      let noted := before.note (Rule.constraint condition).line
      simp only [Execution.demand, Execution.run_bind, Execution.run_evaluate]
      rcases (condition.evaluate (environment.over noted.store)).run.run noted.source
        with ⟨cause | verdict, source⟩
      · exact .raised (.constraint cause source)
      · simp only [Execution.ofEvaluated]
        cases verdict.isTrue with
        | true => exact .passed (.constraint source) .finished
        | false => exact .raised (.unsatisfied source)
  | branch target guard => exact .raised .branch
  | fragment family rules =>
      exact Course.block .fragment .deepFragment fun inner =>
        Rule.executeAllAt_course inner rules _

theorem Arms.executeAt_course {depth : Nat} {family : RuleFamily} (whole arms : Arms)
    (before : Progress) (source : RandomSource) :
    let middle := { before.note (Rule.condition family whole).line with source }
    Course environment before
      (.condition family whole ::
        Arms.enteredAt environment family.conditionName depth arms middle)
      ((arms.executeAt environment family.conditionName depth).run.run middle).1
      ((arms.executeAt environment family.conditionName depth).run.run middle).2 := by
  intro middle
  cases arms with
  | done => exact .passed (.condition source) .finished
  | otherwise rules =>
      rw [Arms.enteredAt, Arms.executeAt]
      exact Course.block (.condition source) (.deepCondition source) fun inner =>
        Rule.executeAllAt_course inner rules middle
  | arm guard rules rest =>
      rw [Arms.enteredAt, Arms.executeAt, Execution.run_bind, Execution.run_evaluate]
      rcases (guard.evaluate (environment.over middle.store)).run.run middle.source
        with ⟨result, source⟩
      cases result with
      | error cause => exact .raised (.guard cause source)
      | ok verdict =>
          simp only [Execution.ofEvaluated]
          cases verdict.isTrue with
          | true =>
              exact Course.block (.condition source) (.deepCondition source) fun inner =>
                Rule.executeAllAt_course inner rules _
          | false => exact Arms.executeAt_course whole rest before source

theorem Rule.executeAllAt_course {depth : Nat}
    (shallow : depth ≤ environment.settings.maxRuleDepth) (rules : List Rule)
    (before : Progress) :
    Course environment before (Rule.enteredAllAt environment depth rules before)
      ((Rule.executeAllAt environment depth rules).run.run before).1
      ((Rule.executeAllAt environment depth rules).run.run before).2 := by
  cases rules with
  | nil => exact .finished
  | cons rule rules =>
      have first := Rule.executeAt_course shallow rule before
      rw [Rule.enteredAllAt, Rule.run_executeAllAt_cons]
      rcases ended : (rule.executeAt environment depth).run.run before with ⟨signal | _, after⟩
      · rw [ended] at first
        simpa using first
      · rw [ended] at first
        exact first.append (Rule.executeAllAt_course shallow rules after)

end

/-! ## The trace of a course -/

namespace Rule

variable {rule : Rule} {before after : Progress} {signal : Signal}

theorem Passes.trace (passes : rule.Passes environment before after) :
    after.trace = before.trace := by
  cases passes with
  | assign ran => exact Assignment.trace_of_run ran
  | condition | constraint | fragment => rfl

theorem Raises.trace (raises : rule.Raises environment before signal after) :
    after.trace = before.trace := by
  cases raises with
  | assign ran => exact Assignment.trace_of_run ran
  | guard | exit | constraint | unsatisfied | branch | deepCondition | deepFragment => rfl

/-- The signal is about the rule that raised it, or about the depth of rules inside it. -/
theorem Raises.names (raises : rule.Raises environment before signal after) :
    signal.rule? = some rule.className ∨
      signal = .failure (.depthExceeded environment.settings.maxRuleDepth) := by
  cases raises with
  | assign ran => exact .inl (Assignment.rule?_of_run ran)
  | guard | exit | constraint | unsatisfied | branch => exact .inl rfl
  | deepCondition | deepFragment => exact .inr rfl

end Rule

/-- A course makes a line for each rule that it enters. -/
theorem Course.trace {before after : Progress} {entered : List Rule}
    {result : Except Signal Unit} (course : Course environment before entered result after) :
    after.trace.toList = before.trace.toList ++ entered.map Rule.line := by
  induction course with
  | finished => simp
  | passed passes _ induction => simp [induction, passes.trace, Progress.note]
  | raised raises => simp [raises.trace, Progress.note]

end Assessment
