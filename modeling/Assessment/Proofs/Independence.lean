import Assessment.Proofs.Locality
import Assessment.Proofs.Succession

/-!
# Independent rules commute

What a rule writes depends only on the variables that it names.  Two rules, neither of
which assigns to a variable that the other one names, therefore make the same writes in
either order; and writes to different variables can be exchanged.
-/

namespace Assessment

/-! ## Writes to different variables -/

/-- A value put into one place of a variable. -/
structure Write where
  kind : AssignmentKind
  identifier : String
  value : Value

namespace Store

def afterWrite (store : Store) (write : Write) : Store :=
  store.update write.identifier (write.kind.put write.value)

/-- The store after some writes, of which the first one is made first. -/
def afterWrites (store : Store) (writes : List Write) : Store :=
  writes.foldl afterWrite store

variable {names : List String}

theorem afterWrites_concat (store : Store) (writes : List Write) (write : Write) :
    store.afterWrites (writes ++ [write]) = (store.afterWrites writes).afterWrite write :=
  List.foldl_append

theorem afterWrite_comm (store : Store) {write other : Write}
    (different : write.identifier ≠ other.identifier) :
    (store.afterWrite write).afterWrite other = (store.afterWrite other).afterWrite write :=
  update_comm (fun _ => AssignmentKind.identifier_put)
    (fun _ => AssignmentKind.identifier_put) different

theorem afterWrite_afterWrites (store : Store) {write : Write} {writes : List Write}
    (different : ∀ other ∈ writes, write.identifier ≠ other.identifier) :
    (store.afterWrite write).afterWrites writes =
      (store.afterWrites writes).afterWrite write := by
  induction writes generalizing store with
  | nil => rfl
  | cons other writes induction =>
      obtain ⟨here, later⟩ := List.forall_mem_cons.mp different
      calc (store.afterWrite write).afterWrites (other :: writes)
          = ((store.afterWrite other).afterWrite write).afterWrites writes :=
            congrArg (afterWrites · writes) (store.afterWrite_comm here)
        _ = ((store.afterWrite other).afterWrites writes).afterWrite write :=
            induction _ later

/-- Two lists of writes without a common variable can be exchanged. -/
theorem afterWrites_comm (store : Store) {writes others : List Write}
    (different : ∀ write ∈ writes, ∀ other ∈ others, write.identifier ≠ other.identifier) :
    (store.afterWrites writes).afterWrites others =
      (store.afterWrites others).afterWrites writes := by
  induction writes generalizing store with
  | nil => rfl
  | cons write writes induction =>
      obtain ⟨here, later⟩ := List.forall_mem_cons.mp different
      calc (store.afterWrites (write :: writes)).afterWrites others
          = ((store.afterWrite write).afterWrites others).afterWrites writes :=
            induction _ later
        _ = ((store.afterWrites others).afterWrite write).afterWrites writes :=
            congrArg (afterWrites · writes) (store.afterWrite_afterWrites here)

theorem agreeOn_afterWrites (store : Store) {writes : List Write}
    (elsewhere : ∀ write ∈ writes, write.identifier ∉ names) :
    AgreeOn names (store.afterWrites writes) store := by
  induction writes generalizing store with
  | nil =>
      intro name _
      rfl
  | cons write writes induction =>
      intro name member
      obtain ⟨here, later⟩ := List.forall_mem_cons.mp elsewhere
      have missed : name ≠ write.identifier := by
        rintro rfl
        exact here member
      calc (store.afterWrites (write :: writes)).get? name
          = (store.afterWrite write).get? name := induction _ later name member
        _ = store.get? name := by
            rw [afterWrite, get?_update fun _ => AssignmentKind.identifier_put, if_neg missed]

end Store

/-! ## The writes of a rule -/

/-- From two stores that were alike under the names, the same writes to the targets have
been made.  Random sources and traces may differ. -/
structure Progress.WroteAlike (names targets : List String) (left right : Store)
    (before other : Progress) : Prop where
  agree : Store.AgreeOn names before.store other.store
  writes : ∃ writes : List Write, (∀ write ∈ writes, write.identifier ∈ targets) ∧
    before.store = left.afterWrites writes ∧ other.store = right.afterWrites writes

section WroteAlike

variable {names targets : List String} {left right : Store} {environment : Environment}

/-- One more write on both sides. -/
theorem Progress.WroteAlike.write {before other : Progress}
    (alike : Progress.WroteAlike names targets left right before other) (write : Write)
    (target : write.identifier ∈ targets) :
    Progress.WroteAlike names targets left right
      { before with store := before.store.afterWrite write }
      { other with store := other.store.afterWrite write } := by
  obtain ⟨writes, inTargets, sameLeft, sameRight⟩ := alike.writes
  constructor
  · exact alike.agree.update fun _ => AssignmentKind.identifier_put
  · refine ⟨writes ++ [write], ?_, ?_, ?_⟩
    · intro one member
      rcases List.mem_append.mp member with old | new
      · exact inTargets one old
      · rw [List.mem_singleton.mp new]
        exact target
    · rw [Store.afterWrites_concat, ← sameLeft]
    · rw [Store.afterWrites_concat, ← sameRight]

theorem Execution.evaluate_wroteAlike (rule : String) {expression : Expression}
    (free : expression.isRandom = false) (covered : expression.references ⊆ names) :
    Lockstep (Progress.WroteAlike names targets left right)
      (evaluate environment rule expression).run
      (evaluate environment rule expression).run := by
  intro before other alike
  obtain ⟨result, same⟩ := expression.evaluate_drawless (environment.over other.store) free
  rw [run_evaluate, run_evaluate,
    expression.evaluate_agree environment (alike.agree.mono covered), same, same]
  exact ⟨rfl, alike.agree, alike.writes⟩

theorem Execution.write_wroteAlike (rule : String) (kind : AssignmentKind)
    {identifier : String} (value : Value) (named : identifier ∈ names)
    (target : identifier ∈ targets) :
    Lockstep (Progress.WroteAlike names targets left right)
      (write rule fun store => store.assign kind identifier value).run
      (write rule fun store => store.assign kind identifier value).run := by
  intro before other alike
  rw [run_write, run_write, Store.assign_eq, Store.assign_eq, alike.agree identifier named]
  cases other.store.get? identifier with
  | none => exact ⟨rfl, alike⟩
  | some v =>
      dsimp only
      cases v.type.coerce? value with
      | none => exact ⟨rfl, alike⟩
      | some fitting => exact ⟨rfl, alike.write ⟨kind, identifier, fitting⟩ target⟩

theorem Assignment.execute_wroteAlike (assignment : Assignment)
    (free : assignment.expression.isRandom = false) (covered : assignment.references ⊆ names)
    (target : assignment.target ∈ targets) :
    Lockstep (Progress.WroteAlike names targets left right)
      (assignment.execute environment).run (assignment.execute environment).run := by
  have named : assignment.target ∈ names := covered List.mem_cons_self
  have expression : assignment.expression.references ⊆ names := by
    intro name member
    exact covered (List.mem_cons_of_mem assignment.target member)
  apply assignment.execute_lockstep_of_steps
  · intro before other alike
    exact assignment.target?_agree alike.agree named
  · exact Execution.evaluate_wroteAlike _ free expression
  · intro v value
    rw [store_eq]
    cases assignment.written v value with
    | error error => exact Lockstep.throw _
    | ok found => exact Execution.write_wroteAlike _ assignment.kind found named target

end WroteAlike

namespace Rule

/-- The variables that a rule may assign to. -/
def targets (rule : Rule) : List String :=
  rule.assignments.map (·.target)

/-- Neither rule assigns to a variable that the other one names. -/
structure Independent (first second : Rule) : Prop where
  forth : ∀ target ∈ first.targets, target ∉ second.references
  back : ∀ target ∈ second.targets, target ∉ first.references

instance (first second : Rule) : Decidable (Independent first second) :=
  decidable_of_iff
    ((∀ target ∈ first.targets, target ∉ second.references) ∧
      ∀ target ∈ second.targets, target ∉ first.references)
    ⟨fun apart => ⟨apart.1, apart.2⟩, fun apart => ⟨apart.forth, apart.back⟩⟩

theorem Independent.symm {first second : Rule} (independent : Independent first second) :
    Independent second first :=
  ⟨independent.back, independent.forth⟩

theorem targets_subset_references (rule : Rule) : rule.targets ⊆ rule.references := by
  intro target member
  obtain ⟨assignment, assigns, rfl⟩ := List.mem_map.mp member
  exact target_mem_references assigns

variable {rule : Rule}

/-- A rule has the same result from stores that agree on the variables that it names,
and makes the same writes to its targets. -/
theorem execute_wroteAlike (environment : Environment) (free : RandomFree [rule])
    {left right : Store}
    (agree : Store.AgreeOn rule.references left right) (source otherSource : RandomSource)
    (trace otherTrace : Array String) :
    let leftEnd := (rule.execute environment).run.run ⟨left, source, trace⟩
    let rightEnd := (rule.execute environment).run.run ⟨right, otherSource, otherTrace⟩
    leftEnd.1 = rightEnd.1 ∧
      ∃ writes : List Write, (∀ write ∈ writes, write.identifier ∈ rule.targets) ∧
        leftEnd.2.store = left.afterWrites writes ∧
        rightEnd.2.store = right.afterWrites writes := by
  intro leftEnd rightEnd
  have parts : PartsInLockstep
      (Progress.WroteAlike rule.references rule.targets left right) environment
      rule.conditions rule.assignments := by
    constructor
    · intro before other line alike
      exact ⟨alike.agree, alike.writes⟩
    · intro condition member name
      apply Execution.evaluate_wroteAlike name
      · exact free.conditions condition (by simpa [conditionsOfAll] using member)
      · exact references_of_condition member
    · intro assignment member
      apply assignment.execute_wroteAlike
      · exact free.assignments assignment (by simpa [assignmentsOfAll] using member)
      · exact references_of_assignment member
      · exact List.mem_map_of_mem member
  have start : Progress.WroteAlike rule.references rule.targets left right
      ⟨left, source, trace⟩ ⟨right, otherSource, otherTrace⟩ :=
    ⟨agree, [], nofun, rfl, rfl⟩
  obtain ⟨sameResult, alike⟩ := parts.executeAt 1 rule start
  exact ⟨sameResult, alike.writes⟩

/-- After writes of the other rule, an independent rule has the result and makes the
writes that it has and makes without them. -/
theorem Independent.execute_after {other : Rule} (independent : Independent rule other)
    (environment : Environment) (free : RandomFree [rule]) (store : Store)
    {otherWrites : List Write}
    (made : ∀ write ∈ otherWrites, write.identifier ∈ other.targets)
    (source laterSource : RandomSource) (trace laterTrace : Array String) :
    let alone := (rule.execute environment).run.run ⟨store, source, trace⟩
    let later := (rule.execute environment).run.run
      ⟨store.afterWrites otherWrites, laterSource, laterTrace⟩
    alone.1 = later.1 ∧
      ∃ writes : List Write, (∀ write ∈ writes, write.identifier ∈ rule.targets) ∧
        alone.2.store = store.afterWrites writes ∧
        later.2.store = (store.afterWrites otherWrites).afterWrites writes := by
  have agree : Store.AgreeOn rule.references store (store.afterWrites otherWrites) := by
    intro name named
    refine (store.agreeOn_afterWrites ?_ name named).symm
    intro write member
    exact independent.back write.identifier (made write member)
  exact execute_wroteAlike environment free agree source laterSource trace laterTrace

/-- The writes of independent rules are to different variables. -/
theorem Independent.afterWrites_comm {other : Rule} (independent : Independent rule other)
    (store : Store) {writes otherWrites : List Write}
    (made : ∀ write ∈ writes, write.identifier ∈ rule.targets)
    (otherMade : ∀ write ∈ otherWrites, write.identifier ∈ other.targets) :
    (store.afterWrites writes).afterWrites otherWrites =
      (store.afterWrites otherWrites).afterWrites writes := by
  apply store.afterWrites_comm
  intro write member later laterMember same
  apply independent.forth write.identifier (made write member)
  rw [same]
  exact other.targets_subset_references (otherMade later laterMember)

end Rule

/-! ## Two rules in either order -/

namespace Engine

variable {environment : Environment} {first second : Rule}

theorem run_collectFailures_pair {before : Progress}
    (proceeds : exits ((first.execute environment).run.run before).1 = false)
    (secondProceeds : exits ((second.execute environment).run.run
      ((first.execute environment).run.run before).2).1 = false) :
    (collectFailures environment [first, second]).run before =
      let ended := (first.execute environment).run.run before
      let later := (second.execute environment).run.run ended.2
      (((failure? ended.1).toList ++ (failure? later.1).toList, false), later.2) := by
  have nothingLeft : ∀ progress : Progress,
      (collectFailures environment []).run progress = (([], false), progress) :=
    fun _ => rfl
  rw [run_collectFailures_cons, if_neg (by simp [proceeds]), run_collectFailures_cons,
    if_neg (by simp [secondProceeds]), nothingLeft]
  simp only [List.append_nil]

/-- The loops over two independent rules lead to the same store, with the failures in the
order of the rules. -/
theorem collectFailures_swap (free : Rule.RandomFree [first])
    (secondFree : Rule.RandomFree [second]) (independent : first.Independent second)
    (store : Store) (source otherSource : RandomSource)
    (proceeds : exits ((first.execute environment).run.run ⟨store, source, #[]⟩).1 = false)
    (secondProceeds :
      exits ((second.execute environment).run.run ⟨store, source, #[]⟩).1 = false) :
    let forth := (collectFailures environment [first, second]).run ⟨store, source, #[]⟩
    let back := (collectFailures environment [second, first]).run ⟨store, otherSource, #[]⟩
    forth.2.store = back.2.store ∧
      ∃ failures others, forth.1 = (failures ++ others, false) ∧
        back.1 = (others ++ failures, false) := by
  intro forth back
  have same : Store.AgreeOn second.references store store := fun _ _ => rfl
  let firstRun := (first.execute environment).run.run ⟨store, source, #[]⟩
  let secondRun := (second.execute environment).run.run ⟨store, otherSource, #[]⟩
  obtain ⟨sameSource, secondWrites, secondMade, secondStore, _⟩ :=
    Rule.execute_wroteAlike environment secondFree same otherSource source #[] #[]
  have secondEnd : secondRun.2 =
      ⟨store.afterWrites secondWrites, secondRun.2.source, secondRun.2.trace⟩ := by
    rw [← secondStore]
  obtain ⟨firstSame, writes, made, firstStore, firstLater⟩ :=
    independent.execute_after environment free store secondMade source
      secondRun.2.source #[] secondRun.2.trace
  have firstEnd : firstRun.2 =
      ⟨store.afterWrites writes, firstRun.2.source, firstRun.2.trace⟩ := by
    rw [← firstStore]
  obtain ⟨secondSame, againWrites, againMade, againStore, secondLater⟩ :=
    independent.symm.execute_after environment secondFree store made
      otherSource firstRun.2.source #[] firstRun.2.trace
  rw [← firstEnd] at secondSame secondLater
  rw [← secondEnd] at firstSame firstLater
  have forthRun : forth = _ :=
    run_collectFailures_pair proceeds (by rw [← secondSame, sameSource]; exact secondProceeds)
  have backRun : back = _ :=
    run_collectFailures_pair (by rw [sameSource]; exact secondProceeds)
      (by rw [← firstSame]; exact proceeds)
  rw [forthRun, backRun]
  constructor
  · calc ((second.execute environment).run.run firstRun.2).2.store
        = (store.afterWrites writes).afterWrites againWrites := secondLater
      _ = (store.afterWrites againWrites).afterWrites writes :=
          independent.afterWrites_comm store made againMade
      _ = (store.afterWrites secondWrites).afterWrites writes := by
          rw [← againStore, ← secondStore]
      _ = ((first.execute environment).run.run secondRun.2).2.store := firstLater.symm
  · refine ⟨(failure? firstRun.1).toList, (failure? secondRun.1).toList, ?_, ?_⟩
    · show ((failure? firstRun.1).toList ++
        (failure? ((second.execute environment).run.run firstRun.2).1).toList, false) = _
      rw [← secondSame]
    · show ((failure? secondRun.1).toList ++
        (failure? ((first.execute environment).run.run secondRun.2).1).toList, false) = _
      rw [← firstSame]

end Engine

namespace Processor

/-- Response processing of two independent rules has the same effect in either order: the
same store, the same failures up to their order, and success with the same report. -/
theorem run_response_swap (environment : Environment) {first second : Rule}
    (free : Rule.RandomFree [first]) (secondFree : Rule.RandomFree [second])
    (independent : first.Independent second) (store : Store)
    (source otherSource : RandomSource)
    (proceeds :
      Engine.exits ((first.execute environment).run.run ⟨store, source, #[]⟩).1 = false)
    (secondProceeds :
      Engine.exits ((second.execute environment).run.run ⟨store, source, #[]⟩).1 = false) :
    let forth := (ofKind .response).run environment source (.ok [first, second]) store
    let back := (ofKind .response).run environment otherSource (.ok [second, first]) store
    forth.store = back.store ∧ forth.failures.Perm back.failures ∧
      ∀ report, forth.outcome = .ok report ↔ back.outcome = .ok report := by
  intro forth back
  obtain ⟨sameStore, failures, others, forthEnds, backEnds⟩ :=
    Engine.collectFailures_swap free secondFree independent store source otherSource proceeds
      secondProceeds
  have forthRun : forth = _ := run_response ..
  have backRun : back = _ := run_response ..
  have permuted : (failures ++ others).Perm (others ++ failures) := List.perm_append_comm
  rw [forthRun, backRun]
  refine ⟨sameStore, ?_, ?_⟩
  · rw [Result.failures_ofLoop, Result.failures_ofLoop, forthEnds, backEnds]
    exact permuted
  · intro report
    have sameEmpty : (failures ++ others).isEmpty = (others ++ failures).isEmpty :=
      permuted.isEmpty_eq
    simp only [Result.ofLoop, forthEnds, backEnds, sameEmpty]
    cases (others ++ failures).isEmpty with
    | true => exact Iff.rfl
    | false =>
        constructor
        · intro same
          cases same
        · intro same
          cases same

/-- Counts the answers and then fails. -/
def countThenFail : Rule :=
  .fragment .response
    [.set .outcomeValue "SCORE" (.apply .containerSize [.valueOf "RESPONSE"]),
      .set .outcomeValue "MISSING" .null]

/-- Doubles `N` unless it is NULL, and then demands what cannot be. -/
def doubleThenDemand : Rule :=
  .condition .response
    (.arm (.apply .isNull [.valueOf "N"]) []
      (.otherwise
        [.set .templateValue "N" (.apply .sum [.valueOf "N", .valueOf "N"]),
          .constraint (.apply .isNull [.valueOf "RESPONSE"])]))

theorem run_response_swap_failing :
    let run := fun rules source =>
      (ofKind .response).run ⟨.default, .standard⟩ source (.ok rules) (Rule.countStore 3)
    let forth := run [countThenFail, doubleThenDemand] (.ofSeed 1)
    let back := run [doubleThenDemand, countThenFail] (.ofSeed 2)
    Rule.RandomFree [countThenFail] ∧ Rule.RandomFree [doubleThenDemand] ∧
      countThenFail.Independent doubleThenDemand ∧
      forth.store = back.store ∧ forth.store.value? "SCORE" = some (.integer 2) ∧
      forth.store.value? "N" = some (.integer 6) ∧
      forth.failures.Perm back.failures ∧
      forth.failures = [.store "setOutcomeValue" (.unknownVariable "MISSING"),
        .unexpectedSignal .constraintUnsatisfied .response] := by
  intro run forth back
  have free : Rule.RandomFree [countThenFail] := by decide
  have otherFree : Rule.RandomFree [doubleThenDemand] := by decide
  have independent : countThenFail.Independent doubleThenDemand := by decide
  obtain ⟨sameStore, permuted, _⟩ := run_response_swap ⟨.default, .standard⟩ free otherFree
    independent (Rule.countStore 3) (.ofSeed 1) (.ofSeed 2) (by decide +kernel) (by decide +kernel)
  exact ⟨free, otherFree, independent, sameStore, by decide +kernel, by decide +kernel,
    permuted, by decide +kernel⟩

end Processor

end Assessment
