import Assessment.Proofs.Course
import Assessment.Proofs.Drawless

/-!
# Nested rules as a list of assignments

Conditionals and fragments choose the assignments that are executed, and exits,
constraints and failures end the run, but none of them writes.  If nothing is drawn, a
run of nested rules leaves what the assignments that it entered leave when they are
executed as one list, with no rules around them.
-/

namespace Assessment

variable {environment : Environment}

namespace Rule

/-- The rules that are entered when a list of rules is executed, in their order. -/
def enteredAll (environment : Environment) (rules : List Rule) (before : Progress) :
    List Rule :=
  enteredAllAt environment 1 rules before

/-- The assignment whose failure has ended a run: the last rule that was entered, if the
run has ended with a signal and this rule is an assignment. -/
def failedAssignment? (entered : List Rule) : Except Signal Unit → Option Assignment
  | .ok () => none
  | .error _ => entered.getLast?.bind assignment?

/-- The assignments among the entered rules, without the last one if the run has ended
because it failed. -/
def completedAssignments (entered : List Rule) (ended : Except Signal Unit) :
    List Assignment :=
  match failedAssignment? entered ended with
  | none => entered.filterMap assignment?
  | some _ => (entered.filterMap assignment?).dropLast

theorem mem_of_failedAssignment? {entered : List Rule} {ended : Except Signal Unit}
    {failed : Assignment} (last : failedAssignment? entered ended = some failed) :
    failed ∈ entered.filterMap assignment? := by
  cases ended with
  | ok _ => cases last
  | error signal =>
      obtain ⟨rule, found, isAssignment⟩ := Option.bind_eq_some_iff.mp last
      exact List.mem_filterMap.mpr ⟨rule, List.mem_of_getLast? found, isAssignment⟩

/-- The rule that has raised a signal is no completed assignment, whatever it is. -/
theorem completedAssignments_concat (passed : List Rule) (rule : Rule) (signal : Signal) :
    completedAssignments (passed ++ [rule]) (.error signal) = passed.filterMap assignment? := by
  rw [completedAssignments, failedAssignment?, List.getLast?_concat, List.filterMap_append]
  cases rule with
  | assign assignment => exact List.dropLast_concat
  | condition | exit | constraint | branch | fragment => exact List.append_nil _

theorem run_executeAll_assign_cons {assignment : Assignment} {rules : List Rule}
    {before : Progress} (shallow : 1 ≤ environment.settings.maxRuleDepth) :
    (executeAll environment (.assign assignment :: rules)).run.run before =
      match (assignment.execute environment).run.run
        (before.note (Rule.assign assignment).line) with
      | (.ok (), after) => (executeAll environment rules).run.run after
      | (.error signal, after) => (.error signal, after) := by
  rw [executeAll, run_executeAllAt_cons, run_executeAt_assign shallow]
  rfl

end Rule

/-- The assignments of a course that was finished can be executed without the other
rules: these only move the random source, which no assignment reads. -/
theorem Course.run_assignments (shallow : 1 ≤ environment.settings.maxRuleDepth)
    {before after : Progress} {entered : List Rule}
    (course : Course environment before entered (.ok ()) after)
    (free : ∀ assignment ∈ entered.filterMap Rule.assignment?,
      assignment.expression.isRandom = false)
    (other : Progress) (same : other.store = before.store) :
    ∃ final, final.store = after.store ∧
      (Rule.executeAll environment
        ((entered.filterMap Rule.assignment?).map .assign)).run.run other = (.ok (), final) := by
  generalize completed : (.ok () : Except Signal Unit) = ended at course
  induction course generalizing other with
  | finished => exact ⟨other, same, rfl⟩
  | raised => cases completed
  | @passed _ _ _ middle _ _ passes _ induction =>
      cases passes with
      | @assign assignment _ _ ran =>
          obtain ⟨here, later⟩ := List.forall_mem_cons.mp free
          let noted := other.note (Rule.assign assignment).line
          have again := Assignment.run_of_store_eq here ran noted same
          obtain ⟨final, sameFinal, rest⟩ :=
            induction later { noted with store := middle.store } rfl completed
          refine ⟨final, sameFinal, ?_⟩
          change (Rule.executeAll environment (.assign assignment :: _)).run.run other = _
          rw [Rule.run_executeAll_assign_cons shallow, again]
          exact rest
      | condition | constraint | fragment => exact induction free other same completed

namespace Rule

theorem Raises.store {rule : Rule} {before after : Progress} {signal : Signal}
    (raises : rule.Raises environment before signal after) : after.store = before.store := by
  cases raises with
  | @assign assignment _ _ _ ran =>
      rcases assignment.execute_cases environment before with ⟨_, _, same⟩ | ⟨completed, _⟩
      · rw [ran] at same
        exact same
      · rw [ran] at completed
        cases completed
  | guard | exit | constraint | unsatisfied | branch | deepCondition | deepFragment => rfl

end Rule

/-- However a course ends, its completed assignments can be executed without the other
rules. -/
theorem Course.run_completedAssignments (shallow : 1 ≤ environment.settings.maxRuleDepth)
    {before after : Progress} {entered : List Rule} {result : Except Signal Unit}
    (course : Course environment before entered result after)
    (free : ∀ assignment ∈ entered.filterMap Rule.assignment?,
      assignment.expression.isRandom = false)
    (other : Progress) (same : other.store = before.store) :
    ∃ final, final.store = after.store ∧
      (Rule.executeAll environment
        ((Rule.completedAssignments entered result).map .assign)).run.run other =
          (.ok (), final) := by
  cases result with
  | ok _ => exact course.run_assignments shallow free other same
  | error signal =>
      obtain ⟨passed, rule, middle, rfl, finished, raises⟩ := course.cut
      have freePassed : ∀ assignment ∈ passed.filterMap Rule.assignment?,
          assignment.expression.isRandom = false := by
        intro assignment member
        refine free assignment ?_
        rw [List.filterMap_append]
        exact List.mem_append_left _ member
      have unchanged : after.store = middle.store := raises.store
      rw [Rule.completedAssignments_concat, unchanged]
      exact finished.run_assignments shallow freePassed other same

/-- The assignment that has ended a course fails with its signal, and leaves the store as
it was. -/
theorem Course.failed_run {before after : Progress} {entered : List Rule}
    {result : Except Signal Unit} (course : Course environment before entered result after)
    {failed : Assignment} (last : Rule.failedAssignment? entered result = some failed) :
    ∃ middle, middle.store = after.store ∧
      (failed.execute environment).run.run middle = (result, after) := by
  cases result with
  | ok _ => cases last
  | error signal =>
      obtain ⟨passed, rule, middle, rfl, _, raises⟩ := course.cut
      rw [Rule.failedAssignment?, List.getLast?_concat] at last
      have unchanged := raises.store
      cases raises with
      | assign ran =>
          cases last
          exact ⟨_, unchanged.symm, ran⟩
      | guard | exit | constraint | unsatisfied | branch | deepCondition | deepFragment =>
          cases last

namespace Rule

theorem enteredAll_sublist (environment : Environment) (rules : List Rule)
    (before : Progress) : (enteredAll environment rules before).Sublist (preorderOfAll rules) :=
  enteredAllAt_sublist 1 rules before

theorem RandomFree.of_entered {rules : List Rule} (free : RandomFree rules)
    {before : Progress} :
    ∀ assignment ∈ (enteredAll environment rules before).filterMap assignment?,
      assignment.expression.isRandom = false := by
  intro assignment member
  have sublist := (enteredAll_sublist environment rules before).filterMap assignment?
  rw [filterMap_preorderOfAll] at sublist
  exact free.assignments assignment (sublist.subset member)

/-- Unless no rule may be entered, executing rules takes a course. -/
theorem executeAll_course_or_deep (environment : Environment) (rules : List Rule)
    (before : Progress) :
    let ended := (executeAll environment rules).run.run before
    (1 ≤ environment.settings.maxRuleDepth ∧
      Course environment before (enteredAll environment rules before) ended.1 ended.2) ∨
      enteredAll environment rules before = [] ∧ ended.2 = before := by
  by_cases shallow : 1 ≤ environment.settings.maxRuleDepth
  · exact .inl ⟨shallow, executeAllAt_course shallow rules before⟩
  · have deep := Nat.lt_of_not_le shallow
    refine .inr ?_
    rw [enteredAll, executeAll]
    cases rules with
    | nil => exact ⟨rfl, rfl⟩
    | cons rule rules =>
        rw [enteredAllAt, enteredAt_deep deep, run_executeAllAt_cons, run_executeAt_deep deep]
        exact ⟨rfl, rfl⟩

/-- If nothing can be drawn, the assignments that a run has entered, without the last one
if the run has ended because it failed, can be executed as one list: this completes, and
leaves the store that the run has left, however the run has ended.  The entered rules are
those with a line in the trace; and an assignment that is left out fails with the signal
that the run has ended with. -/
theorem executeAll_flattened (environment : Environment) {rules : List Rule}
    (free : RandomFree rules) (before : Progress) (source : RandomSource)
    (trace : Array String) :
    let ended := (executeAll environment rules).run.run before
    let entered := enteredAll environment rules before
    let completed := completedAssignments entered ended.1
    let flat := (executeAll environment (completed.map .assign)).run.run
      ⟨before.store, source, trace⟩
    flat.1 = .ok () ∧ flat.2.store = ended.2.store ∧
      entered.Sublist (preorderOfAll rules) ∧
      ended.2.trace.toList = before.trace.toList ++ entered.map line ∧
      ∀ failed, failedAssignment? entered ended.1 = some failed →
        ((failed.execute environment).run.run ended.2).1 = ended.1 := by
  intro ended entered completed flat
  have sublist : entered.Sublist (preorderOfAll rules) :=
    enteredAll_sublist environment rules before
  rcases executeAll_course_or_deep environment rules before with ⟨shallow, course⟩ | ⟨none, same⟩
  · obtain ⟨final, sameStore, ran⟩ :=
      course.run_completedAssignments shallow free.of_entered ⟨before.store, source, trace⟩ rfl
    have flatRun : flat = (.ok (), final) := ran
    refine ⟨by rw [flatRun], by rw [flatRun, sameStore], sublist, course.trace, ?_⟩
    intro failed last
    obtain ⟨middle, unchanged, failure⟩ := course.failed_run last
    have drawless := free.of_entered failed (mem_of_failedAssignment? last)
    rw [Assignment.run_of_store_eq drawless failure ended.2 unchanged.symm]
  · have nothing : entered = [] := none
    have stayed : ended.2 = before := same
    have noAssignments : completed = [] := by
      simp only [completed, nothing]
      cases ended.1 <;> rfl
    have flatRun : flat = (.ok (), ⟨before.store, source, trace⟩) := by
      simp only [flat, noAssignments]
      rfl
    refine ⟨by rw [flatRun], by rw [flatRun, stayed], sublist, by simp [nothing, stayed], ?_⟩
    intro failed last
    rw [nothing] at last
    cases mem_of_failedAssignment? last

/-- Scores, doubles the score in a nested block, and fails there. -/
def doubleAndFail : List Rule :=
  [.set .outcomeValue "SCORE" (.baseValue (.integer 3)),
    .condition .response
      (.arm (.apply .isNull [.valueOf "SCORE"]) [.exit .response]
        (.otherwise
          [.fragment .response
            [.set .outcomeValue "SCORE" (.apply .sum [.valueOf "SCORE", .valueOf "SCORE"]),
              .set .outcomeValue "MISSING" (.valueOf "SCORE")]])),
    .set .outcomeValue "SCORE" (.baseValue (.integer 0))]

theorem executeAll_flattened_doubleAndFail :
    let store : Store :=
      ⟨[⟨"SCORE", .single .integer, .outcome ⟨none, none, none, none⟩, .integer 0, .null⟩]⟩
    let environment : Environment := ⟨.default, .standard⟩
    let before : Progress := ⟨store, .ofSeed 1, #[]⟩
    let ended := (executeAll environment doubleAndFail).run.run before
    let entered := enteredAll environment doubleAndFail before
    let completed := completedAssignments entered ended.1
    let flat := (executeAll environment (completed.map .assign)).run.run
      ⟨before.store, .ofSeed 2, #[]⟩
    RandomFree doubleAndFail ∧
      (failedAssignment? entered ended.1).map (·.target) = some "MISSING" ∧
      completed.length = 2 ∧ flat.1 = .ok () ∧ flat.2.store = ended.2.store ∧
      ended.2.store.value? "SCORE" = some (.integer 6) := by
  intro store environment before ended entered completed flat
  have free : RandomFree doubleAndFail := by decide
  obtain ⟨completes, sameStore, _, _, _⟩ :=
    executeAll_flattened environment free before (.ofSeed 2) #[]
  have left : flat.2.store = ended.2.store := by
    simp only [flat, ended, completed, entered]
    exact sameStore
  exact ⟨free, by decide +kernel, by decide +kernel, completes, left, by decide +kernel⟩

end Rule

end Assessment
