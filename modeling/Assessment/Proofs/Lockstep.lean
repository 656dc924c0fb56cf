import Assessment.Proofs.RuleParts
import Assessment.Proofs.Write

/-!
# Runs in lockstep

Two computations run in lockstep along a relation between progress if they give the
same result and lead from related progress to related progress.  Some comparisons hold
only as long as the left computation does not fail for certain reasons, which excuse
any difference.  Whole rules and whole blocks run in lockstep as soon as their
assignments and conditions do, so one induction over rule trees serves every
comparison of two runs; and what all runs keep is the special case of a run compared
with itself.
-/

namespace Assessment

/-- From related progress, both computations give the same result and progress that is
related again. -/
def Lockstep {α : Type} (relation : Progress → Progress → Prop)
    (left right : StateM Progress α) : Prop :=
  ∀ ⦃before other : Progress⦄, relation before other →
    (left.run before).1 = (right.run other).1 ∧
      relation (left.run before).2 (right.run other).2

/-- The computations run in lockstep unless the left one gives a result that excuses a
difference. -/
def LockstepUnless {α : Type} (excuses : α → Prop) (relation : Progress → Progress → Prop)
    (left right : StateM Progress α) : Prop :=
  ∀ ⦃before other : Progress⦄, relation before other →
    excuses (left.run before).1 ∨
      (left.run before).1 = (right.run other).1 ∧
        relation (left.run before).2 (right.run other).2

/-- The execution ends with a failure that is an excuse. -/
def Execution.Excused {α : Type} (excuse : RuleError → Prop) (result : Except Signal α) :
    Prop :=
  ∃ error, result = .error (.failure error) ∧ excuse error

section Combinators

variable {α β : Type} {relation : Progress → Progress → Prop} {excuses : α → Prop}

theorem Lockstep.weaken {left right : StateM Progress α}
    (lockstep : Lockstep relation left right) : LockstepUnless excuses relation left right :=
  fun _ _ related => .inr (lockstep related)

namespace LockstepUnless

/-- Without excuses, the computations run in lockstep. -/
theorem lockstep {left right : StateM Progress α}
    (lockstep : LockstepUnless excuses relation left right)
    (never : ∀ result, ¬ excuses result) : Lockstep relation left right :=
  fun _ _ related => (lockstep related).resolve_left (never _)

theorem pure (value : α) :
    LockstepUnless excuses relation (Pure.pure value) (Pure.pure value) :=
  fun _ _ related => .inr ⟨rfl, related⟩

/-- An excuse of the first part has to remain one for the whole sequence. -/
theorem bind {excusesNext : β → Prop} {left right : StateM Progress α}
    {next other : α → StateM Progress β}
    (first : LockstepUnless excuses relation left right)
    (excused : ∀ value, excuses value → ∀ progress, excusesNext ((next value).run progress).1)
    (rest : ∀ value, LockstepUnless excusesNext relation (next value) (other value)) :
    LockstepUnless excusesNext relation (left >>= next) (right >>= other) := by
  intro before after related
  rcases first related with excuse | ⟨sameResult, relatedAfter⟩
  · exact .inl (excused _ excuse _)
  · have restRelated := rest (left.run before).1 relatedAfter
    have rightRun : (right >>= other).run after =
        (other (right.run after).1).run (right.run after).2 := rfl
    rw [rightRun, ← sameResult]
    exact restRelated

variable {excuse : RuleError → Prop}

/-- A sequence of executions runs in lockstep if the first part does, and the rest does
for each value of the first part. -/
theorem sequence {left right : Execution α} {next other : α → Execution β}
    (first : LockstepUnless (Execution.Excused excuse) relation left.run right.run)
    (rest : ∀ value,
      LockstepUnless (Execution.Excused excuse) relation (next value).run (other value).run) :
    LockstepUnless (Execution.Excused excuse) relation (left >>= next).run
      (right >>= other).run := by
  intro before after related
  rw [Execution.run_bind, Execution.run_bind]
  rcases first related with ⟨error, failed, isExcuse⟩ | ⟨sameResult, relatedAfter⟩
  · rw [failed]
    exact .inl ⟨error, rfl, isExcuse⟩
  · rw [← sameResult]
    cases (left.run.run before).1 with
    | ok value => exact rest value relatedAfter
    | error signal => exact .inr ⟨rfl, relatedAfter⟩

/-- Executions that end with a signal at once. -/
theorem throw {excuses : Except Signal α → Prop} (signal : Signal) :
    LockstepUnless excuses relation
      (MonadExcept.throw signal : Execution α).run
      (MonadExcept.throw signal : Execution α).run :=
  fun _ _ related => .inr ⟨rfl, related⟩

end LockstepUnless

theorem Execution.not_excused_of_never {α : Type} (result : Except Signal α) :
    ¬ Excused (fun _ => False) result :=
  fun ⟨_, _, never⟩ => never

namespace Lockstep

theorem refl (computation : StateM Progress α) : Lockstep Eq computation computation := by
  rintro progress _ rfl
  exact ⟨rfl, rfl⟩

theorem throw (signal : Signal) :
    Lockstep relation (α := Except Signal α)
      (MonadExcept.throw signal : Execution α).run
      (MonadExcept.throw signal : Execution α).run :=
  fun _ _ related => ⟨rfl, related⟩

end Lockstep

end Combinators

/-! ## Assignments -/

/-- An assignment finds its target, evaluates its expression and stores the value; it
runs in lockstep if all three do. -/
theorem Assignment.execute_lockstepUnless {excuse : RuleError → Prop}
    {relation : Progress → Progress → Prop} {environment other : Environment}
    (assignment : Assignment)
    (sameTarget : ∀ {before after : Progress}, relation before after →
      assignment.target? before.store = assignment.target? after.store)
    (evaluated : LockstepUnless (Execution.Excused excuse) relation
      (Execution.evaluate environment assignment.kind.className assignment.expression).run
      (Execution.evaluate other assignment.kind.className assignment.expression).run)
    (stored : ∀ v value, Lockstep relation (assignment.store v value).run
      (assignment.store v value).run) :
    LockstepUnless (Execution.Excused excuse) relation (assignment.execute environment).run
      (assignment.execute other).run := by
  intro before after related
  rw [run_execute, run_execute, sameTarget related]
  cases assignment.target? after.store with
  | error error => exact .inr ⟨rfl, related⟩
  | ok v =>
      have rest := evaluated.sequence fun value => (stored v value).weaken
      exact rest related

theorem Assignment.execute_lockstep_of_steps {relation : Progress → Progress → Prop}
    {environment : Environment} (assignment : Assignment)
    (sameTarget : ∀ {before after : Progress}, relation before after →
      assignment.target? before.store = assignment.target? after.store)
    (evaluated : Lockstep relation
      (Execution.evaluate environment assignment.kind.className assignment.expression).run
      (Execution.evaluate environment assignment.kind.className assignment.expression).run)
    (stored : ∀ v value, Lockstep relation (assignment.store v value).run
      (assignment.store v value).run) :
    Lockstep relation (assignment.execute environment).run
      (assignment.execute environment).run := by
  have whole : LockstepUnless (Execution.Excused fun _ => False) relation
      (assignment.execute environment).run (assignment.execute environment).run :=
    assignment.execute_lockstepUnless sameTarget evaluated.weaken stored
  exact whole.lockstep Execution.not_excused_of_never

/-! ## Rules -/

/-- What makes rules with the given conditions and assignments run in lockstep in two
environments. -/
structure Rule.PartsInLockstepUnless (excuse : RuleError → Prop)
    (relation : Progress → Progress → Prop) (environment other : Environment)
    (conditions : List Expression) (assignments : List Assignment) : Prop where
  entered : ∀ (depth : Nat) (rule : Rule), LockstepUnless (Execution.Excused excuse) relation
    (Execution.enter environment depth rule).run (Execution.enter other depth rule).run
  conditions : ∀ condition ∈ conditions, ∀ rule : String,
    LockstepUnless (Execution.Excused excuse) relation
      (Execution.evaluate environment rule condition).run
      (Execution.evaluate other rule condition).run
  assignments : ∀ assignment ∈ assignments,
    LockstepUnless (Execution.Excused excuse) relation
      (assignment.execute environment).run (assignment.execute other).run

namespace Rule.PartsInLockstepUnless

variable {excuse : RuleError → Prop} {relation : Progress → Progress → Prop}
  {environment other : Environment} {conditions : List Expression}
  {assignments : List Assignment}

theorem mono {fewerConditions : List Expression} {fewerAssignments : List Assignment}
    (parts : PartsInLockstepUnless excuse relation environment other conditions assignments)
    (conditionsSubset : fewerConditions ⊆ conditions)
    (assignmentsSubset : fewerAssignments ⊆ assignments) :
    PartsInLockstepUnless excuse relation environment other fewerConditions
      fewerAssignments where
  entered := parts.entered
  conditions condition member := parts.conditions condition (conditionsSubset member)
  assignments assignment member := parts.assignments assignment (assignmentsSubset member)

theorem demand
    (parts : PartsInLockstepUnless excuse relation environment other conditions assignments)
    {condition : Expression} (rule : String) (member : condition ∈ conditions) :
    LockstepUnless (Execution.Excused excuse) relation
      (Execution.demand environment rule condition).run
      (Execution.demand other rule condition).run := by
  unfold Execution.demand
  refine LockstepUnless.sequence (parts.conditions condition member rule) fun verdict => ?_
  cases verdict.isTrue with
  | true => exact LockstepUnless.pure _
  | false => exact LockstepUnless.throw _

mutual

theorem executeAt (depth : Nat) (rule : Rule)
    (parts : PartsInLockstepUnless excuse relation environment other rule.conditions
      rule.assignments) :
    LockstepUnless (Execution.Excused excuse) relation (rule.executeAt environment depth).run
      (rule.executeAt other depth).run := by
  cases rule with
  | assign assignment =>
      rw [Rule.executeAt, Rule.executeAt]
      exact LockstepUnless.sequence (parts.entered depth _) fun _ =>
        parts.assignments assignment (by simp [Rule.assignments])
  | condition family arms =>
      rw [Rule.executeAt, Rule.executeAt]
      exact LockstepUnless.sequence (parts.entered depth _) fun _ =>
        arms_executeAt family.conditionName (depth + 1) arms parts
  | exit kind =>
      rw [Rule.executeAt, Rule.executeAt]
      exact LockstepUnless.sequence (parts.entered depth _) fun _ => LockstepUnless.throw _
  | constraint condition =>
      rw [Rule.executeAt, Rule.executeAt]
      refine LockstepUnless.sequence (parts.entered depth _) fun _ => ?_
      exact parts.demand "templateConstraint" (by simp [Rule.conditions])
  | branch target guard =>
      rw [Rule.executeAt, Rule.executeAt]
      exact LockstepUnless.sequence (parts.entered depth _) fun _ => LockstepUnless.throw _
  | fragment family rules =>
      rw [Rule.executeAt, Rule.executeAt]
      exact LockstepUnless.sequence (parts.entered depth _) fun _ =>
        executeAllAt (depth + 1) rules parts

theorem arms_executeAt (name : String) (depth : Nat) (arms : Arms)
    (parts : PartsInLockstepUnless excuse relation environment other arms.conditions
      arms.assignments) :
    LockstepUnless (Execution.Excused excuse) relation
      (arms.executeAt environment name depth).run (arms.executeAt other name depth).run := by
  cases arms with
  | done =>
      rw [Arms.executeAt, Arms.executeAt]
      exact LockstepUnless.pure _
  | otherwise rules =>
      rw [Arms.executeAt, Arms.executeAt]
      exact executeAllAt depth rules parts
  | arm guard rules rest =>
      rw [Arms.executeAt, Arms.executeAt]
      refine LockstepUnless.sequence
        (parts.conditions guard (by simp [Arms.conditions]) name) fun verdict => ?_
      cases verdict.isTrue with
      | true =>
          exact executeAllAt depth rules
            (parts.mono (by simp [Arms.conditions]) (by simp [Arms.assignments]))
      | false =>
          exact arms_executeAt name depth rest
            (parts.mono (by simp [Arms.conditions]) (by simp [Arms.assignments]))

theorem executeAllAt (depth : Nat) (rules : List Rule)
    (parts : PartsInLockstepUnless excuse relation environment other
      (Rule.conditionsOfAll rules) (Rule.assignmentsOfAll rules)) :
    LockstepUnless (Execution.Excused excuse) relation
      (Rule.executeAllAt environment depth rules).run
      (Rule.executeAllAt other depth rules).run := by
  cases rules with
  | nil =>
      rw [Rule.executeAllAt, Rule.executeAllAt]
      exact LockstepUnless.pure _
  | cons rule rules =>
      rw [Rule.executeAllAt, Rule.executeAllAt]
      refine LockstepUnless.sequence
        (executeAt depth rule
          (parts.mono (by simp [Rule.conditionsOfAll]) (by simp [Rule.assignmentsOfAll])))
        fun _ => ?_
      exact executeAllAt depth rules
        (parts.mono (by simp [Rule.conditionsOfAll]) (by simp [Rule.assignmentsOfAll]))

end

end Rule.PartsInLockstepUnless

/-- What makes rules with the given conditions and assignments run in lockstep with
themselves. -/
structure Rule.PartsInLockstep (relation : Progress → Progress → Prop)
    (environment : Environment) (conditions : List Expression)
    (assignments : List Assignment) : Prop where
  noted : ∀ {before other} (line : String), relation before other →
    relation (before.note line) (other.note line)
  conditions : ∀ condition ∈ conditions, ∀ rule : String,
    Lockstep relation (Execution.evaluate environment rule condition).run
      (Execution.evaluate environment rule condition).run
  assignments : ∀ assignment ∈ assignments,
    Lockstep relation (assignment.execute environment).run
      (assignment.execute environment).run

namespace Rule.PartsInLockstep

variable {relation : Progress → Progress → Prop} {environment : Environment}
  {conditions : List Expression} {assignments : List Assignment}

theorem enter (parts : PartsInLockstep relation environment conditions assignments)
    (depth : Nat) (rule : Rule) :
    Lockstep relation (Execution.enter environment depth rule).run
      (Execution.enter environment depth rule).run := by
  intro before other related
  rw [Execution.run_enter, Execution.run_enter]
  by_cases tooDeep : environment.settings.maxRuleDepth < depth
  · rw [if_pos tooDeep, if_pos tooDeep]
    exact ⟨rfl, related⟩
  · rw [if_neg tooDeep, if_neg tooDeep]
    exact ⟨rfl, parts.noted _ related⟩

/-- A comparison without excuses. -/
theorem weaken (parts : PartsInLockstep relation environment conditions assignments) :
    PartsInLockstepUnless (fun _ => False) relation environment environment conditions
      assignments where
  entered depth rule := (parts.enter depth rule).weaken
  conditions condition member rule := (parts.conditions condition member rule).weaken
  assignments assignment member := (parts.assignments assignment member).weaken

theorem executeAt (depth : Nat) (rule : Rule)
    (parts : PartsInLockstep relation environment rule.conditions rule.assignments) :
    Lockstep relation (rule.executeAt environment depth).run
      (rule.executeAt environment depth).run :=
  (parts.weaken.executeAt depth rule).lockstep Execution.not_excused_of_never

theorem executeAllAt (depth : Nat) (rules : List Rule)
    (parts : PartsInLockstep relation environment (Rule.conditionsOfAll rules)
      (Rule.assignmentsOfAll rules)) :
    Lockstep relation (Rule.executeAllAt environment depth rules).run
      (Rule.executeAllAt environment depth rules).run :=
  (parts.weaken.executeAllAt depth rules).lockstep Execution.not_excused_of_never

end Rule.PartsInLockstep

/-! ## Engines -/

namespace Engine

/-- The run fails, and one of its failures is an excuse. -/
def Excused (excuse : RuleError → Prop) (result : Except ProcessingError Report) : Prop :=
  ∃ error, result = .error error ∧ ∃ failure ∈ error.failures, excuse failure

variable {excuse : RuleError → Prop} {relation : Progress → Progress → Prop}
  {environment other : Environment}

theorem collectFailures_lockstepUnless (rules : List Rule)
    (parts : Rule.PartsInLockstepUnless excuse relation environment other
      (Rule.conditionsOfAll rules) (Rule.assignmentsOfAll rules)) :
    LockstepUnless (fun ended => ∃ failure ∈ ended.1, excuse failure) relation
      (collectFailures environment rules) (collectFailures other rules) := by
  induction rules with
  | nil => exact LockstepUnless.pure _
  | cons rule rules induction =>
      have ruleParts : Rule.PartsInLockstepUnless excuse relation environment other
          rule.conditions rule.assignments :=
        parts.mono (by simp [Rule.conditionsOfAll]) (by simp [Rule.assignmentsOfAll])
      have rest := induction (parts.mono
        (by simp [Rule.conditionsOfAll]) (by simp [Rule.assignmentsOfAll]))
      have collected : ∀ signal : Signal,
          LockstepUnless (fun ended => ∃ failure ∈ ended.1, excuse failure) relation
            (collectFailures environment rules >>= fun ended =>
              return (signal.asError .response :: ended.1, ended.2))
            (collectFailures other rules >>= fun ended =>
              return (signal.asError .response :: ended.1, ended.2)) := by
        intro signal
        refine LockstepUnless.bind rest ?_ fun _ => LockstepUnless.pure _
        rintro ended ⟨failure, member, isExcuse⟩ _
        exact ⟨failure, List.mem_cons_of_mem _ member, isExcuse⟩
      refine LockstepUnless.bind (ruleParts.executeAt 1 rule) ?_ fun result => ?_
      · rintro _ ⟨error, rfl, isExcuse⟩ _
        exact ⟨error, List.mem_cons_self, isExcuse⟩
      · match result with
        | .ok () => exact rest
        | .error (.interruption (.exit .response)) => exact LockstepUnless.pure _
        | .error (.interruption (.exit .template)) => exact collected _
        | .error (.interruption (.exit .test)) => exact collected _
        | .error (.interruption .constraintUnsatisfied) => exact collected _
        | .error (.failure error) => exact collected _

theorem runResponse_lockstepUnless (rules : List Rule)
    (parts : Rule.PartsInLockstepUnless excuse relation environment other
      (Rule.conditionsOfAll rules) (Rule.assignmentsOfAll rules)) :
    LockstepUnless (Excused excuse) relation (runResponse environment rules)
      (runResponse other rules) := by
  unfold runResponse
  refine LockstepUnless.bind (collectFailures_lockstepUnless rules parts) ?_
    fun _ => LockstepUnless.pure _
  rintro ⟨failures, exited⟩ ⟨failure, member, isExcuse⟩ _
  refine ⟨.aggregate failures, if_neg ?_, failure, member, isExcuse⟩
  simpa using List.ne_nil_of_mem member

theorem runOutcome_lockstepUnless (rules : List Rule)
    (parts : Rule.PartsInLockstepUnless excuse relation environment other
      (Rule.conditionsOfAll rules) (Rule.assignmentsOfAll rules)) :
    LockstepUnless (Excused excuse) relation (runOutcome environment rules)
      (runOutcome other rules) := by
  unfold runOutcome
  refine LockstepUnless.bind (parts.executeAllAt 1 rules) ?_ fun result => ?_
  · rintro _ ⟨error, rfl, isExcuse⟩ _
    exact ⟨.rule error, rfl, error, List.mem_singleton.mpr rfl, isExcuse⟩
  · match result with
    | .ok () => exact LockstepUnless.pure _
    | .error (.interruption (.exit .response)) => exact LockstepUnless.pure _
    | .error (.interruption (.exit .template)) => exact LockstepUnless.pure _
    | .error (.interruption (.exit .test)) => exact LockstepUnless.pure _
    | .error (.interruption .constraintUnsatisfied) => exact LockstepUnless.pure _
    | .error (.failure error) => exact LockstepUnless.pure _

theorem attempt_lockstepUnless (rules : List Rule)
    (parts : Rule.PartsInLockstepUnless excuse relation environment other
      (Rule.conditionsOfAll rules) (Rule.assignmentsOfAll rules))
    (reset : Lockstep relation resetTemplates resetTemplates) (done more : Nat) :
    LockstepUnless (Excused excuse) relation (attempt environment rules done more)
      (attempt other rules done more) := by
  have resetUnless : LockstepUnless (fun _ => False) relation resetTemplates resetTemplates :=
    reset.weaken
  have resetFirst : ∀ {left right : Unit → Run},
      LockstepUnless (Excused excuse) relation (left ()) (right ()) →
      LockstepUnless (Excused excuse) relation (resetTemplates >>= left)
        (resetTemplates >>= right) :=
    fun rest => LockstepUnless.bind resetUnless (fun _ never => never.elim) fun _ => rest
  induction more generalizing done with
  | zero => exact resetFirst (LockstepUnless.pure _)
  | succ more induction =>
      refine resetFirst ?_
      refine LockstepUnless.bind (parts.executeAllAt 1 rules) ?_ fun result => ?_
      · rintro _ ⟨error, rfl, isExcuse⟩ _
        exact ⟨.rule error, rfl, error, List.mem_singleton.mpr rfl, isExcuse⟩
      · match result with
        | .ok () => exact LockstepUnless.pure _
        | .error (.interruption (.exit .response)) => exact LockstepUnless.pure _
        | .error (.interruption (.exit .template)) => exact LockstepUnless.pure _
        | .error (.interruption (.exit .test)) => exact LockstepUnless.pure _
        | .error (.interruption .constraintUnsatisfied) => exact induction (done + 1)
        | .error (.failure error) => exact LockstepUnless.pure _

theorem run_lockstepUnless (kind : ProcessingKind) (rules : List Rule)
    (sameAttempts :
      environment.settings.maxTemplateAttempts = other.settings.maxTemplateAttempts)
    (parts : Rule.PartsInLockstepUnless excuse relation environment other
      (Rule.conditionsOfAll rules) (Rule.assignmentsOfAll rules))
    (reset : Lockstep relation resetTemplates resetTemplates) :
    LockstepUnless (Excused excuse) relation (run environment kind rules)
      (run other kind rules) := by
  cases kind with
  | response => exact runResponse_lockstepUnless rules parts
  | outcome => exact runOutcome_lockstepUnless rules parts
  | template =>
      simp only [run, runTemplate, sameAttempts]
      exact attempt_lockstepUnless rules parts reset 0 _

theorem collectFailures_lockstep (rules : List Rule)
    (parts : Rule.PartsInLockstep relation environment (Rule.conditionsOfAll rules)
      (Rule.assignmentsOfAll rules)) :
    Lockstep relation (collectFailures environment rules)
      (collectFailures environment rules) :=
  (collectFailures_lockstepUnless rules parts.weaken).lockstep
    fun _ ⟨_, _, never⟩ => never

theorem run_lockstep (kind : ProcessingKind) (rules : List Rule)
    (parts : Rule.PartsInLockstep relation environment (Rule.conditionsOfAll rules)
      (Rule.assignmentsOfAll rules))
    (reset : Lockstep relation resetTemplates resetTemplates) :
    Lockstep relation (run environment kind rules) (run environment kind rules) :=
  (run_lockstepUnless kind rules rfl parts.weaken reset).lockstep
    fun _ ⟨_, _, _, _, never⟩ => never

end Engine

/-! ## What runs keep -/

/-- The computation keeps an invariant of the store, however it ends. -/
def Keeps {α : Type} (invariant : Store → Prop) (computation : StateM Progress α) : Prop :=
  ∀ progress : Progress, invariant progress.store →
    invariant (computation.run progress).2.store

/-- Keeping an invariant is running in lockstep with oneself. -/
theorem keeps_iff_lockstep {α : Type} {invariant : Store → Prop}
    {computation : StateM Progress α} :
    Keeps invariant computation ↔
      Lockstep (fun before other => before = other ∧ invariant before.store)
        computation computation := by
  constructor
  · rintro keeps before other ⟨rfl, holds⟩
    exact ⟨rfl, rfl, keeps before holds⟩
  · intro lockstep progress holds
    exact (lockstep ⟨rfl, holds⟩).2.2

section Keeps

variable {invariant : Store → Prop} {environment : Environment}

/-- Only assignments have to be looked at, because conditions do not write. -/
theorem partsInLockstep_of_keeps (conditions : List Expression)
    {assignments : List Assignment}
    (keeps : ∀ assignment ∈ assignments,
      Keeps invariant (assignment.execute environment).run) :
    Rule.PartsInLockstep (fun before other => before = other ∧ invariant before.store)
      environment conditions assignments where
  noted := by
    rintro before other line ⟨rfl, holds⟩
    exact ⟨rfl, holds⟩
  conditions := by
    intro condition _ rule
    refine keeps_iff_lockstep.mp fun progress holds => ?_
    rw [Execution.run_evaluate]
    exact holds
  assignments assignment member := keeps_iff_lockstep.mp (keeps assignment member)

theorem Rule.execute_keeps (rule : Rule)
    (keeps : ∀ assignment ∈ rule.assignments,
      Keeps invariant (assignment.execute environment).run) :
    Keeps invariant (rule.execute environment).run :=
  keeps_iff_lockstep.mpr
    ((partsInLockstep_of_keeps rule.conditions keeps).executeAt 1 rule)

theorem Rule.executeAll_keeps (rules : List Rule)
    (keeps : ∀ assignment ∈ Rule.assignmentsOfAll rules,
      Keeps invariant (assignment.execute environment).run) :
    Keeps invariant (Rule.executeAll environment rules).run :=
  keeps_iff_lockstep.mpr
    ((partsInLockstep_of_keeps (Rule.conditionsOfAll rules) keeps).executeAllAt 1 rules)

theorem Engine.run_keeps (kind : ProcessingKind) (rules : List Rule)
    (keeps : ∀ assignment ∈ Rule.assignmentsOfAll rules,
      Keeps invariant (assignment.execute environment).run)
    (reset : ∀ store, invariant store → invariant store.resetTemplates) :
    Keeps invariant (Engine.run environment kind rules) := by
  have parts := partsInLockstep_of_keeps (Rule.conditionsOfAll rules) keeps
  have resetParts : Keeps invariant Engine.resetTemplates :=
    fun progress holds => reset progress.store holds
  exact keeps_iff_lockstep.mpr
    (Engine.run_lockstep kind rules parts (keeps_iff_lockstep.mp resetParts))

end Keeps

end Assessment
