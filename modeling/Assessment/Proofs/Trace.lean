import Assessment.Proofs.Course

/-!
# What the trace tells

The trace follows the rules of a document in their order, without a line too many, and
its last line tells where a signal comes from.
-/

namespace Assessment.Rule

variable {environment : Environment}

/-- The rules that are entered when a rule is executed, in their order. -/
def entered (environment : Environment) (rule : Rule) (before : Progress) : List Rule :=
  rule.enteredAt environment 1 before

/-- Unless not even the rule itself may be entered, its execution takes a course. -/
theorem execute_course_or_deep (environment : Environment) (rule : Rule) (before : Progress) :
    let ended := (rule.execute environment).run.run before
    Course environment before (rule.entered environment before) ended.1 ended.2 ∨
      rule.entered environment before = [] ∧
        ended = (.error (.failure (.depthExceeded environment.settings.maxRuleDepth)), before) := by
  by_cases shallow : 1 ≤ environment.settings.maxRuleDepth
  · exact .inl (executeAt_course shallow rule before)
  · have deep := Nat.lt_of_not_le shallow
    exact .inr ⟨enteredAt_deep deep rule before, run_executeAt_deep deep rule before⟩

theorem trace_execute (environment : Environment) (rule : Rule) (before : Progress) :
    ((rule.execute environment).run.run before).2.trace.toList =
      before.trace.toList ++ (rule.entered environment before).map line := by
  rcases rule.execute_course_or_deep environment before with course | ⟨none, ended⟩
  · exact course.trace
  · rw [none, ended]
    simp

/-- A signal other than one about the depth was raised by the last rule entered. -/
theorem raises_of_execute_error {rule : Rule} {before : Progress} {signal : Signal}
    (failed : ((rule.execute environment).run.run before).1 = .error signal)
    (shallow : ∀ limit, signal ≠ .failure (.depthExceeded limit)) :
    ∃ last middle after, (rule.entered environment before).getLast? = some last ∧
      last.Raises environment middle signal after := by
  rcases rule.execute_course_or_deep environment before with course | ⟨_, ended⟩
  · rw [failed] at course
    obtain ⟨passed, last, middle, entered, _, raises⟩ := course.cut
    refine ⟨last, _, _, ?_, raises⟩
    rw [entered, List.getLast?_concat]
  · rw [ended] at failed
    cases failed
    exact absurd rfl (shallow _)

theorem entered_sublist (environment : Environment) (rule : Rule) (before : Progress) :
    (rule.entered environment before).Sublist rule.preorder :=
  enteredAt_sublist 1 rule before

theorem mem_preorder_of_getLast? {rule last : Rule} {before : Progress}
    (found : (rule.entered environment before).getLast? = some last) : last ∈ rule.preorder :=
  (rule.entered_sublist environment before).subset (List.mem_of_getLast? found)

theorem Raises.eq_exit {rule : Rule} {before after : Progress} {kind : ExitKind}
    (raises : rule.Raises environment before (.interruption (.exit kind)) after) :
    rule = .exit kind := by
  cases raises with
  | exit => rfl

theorem Raises.exists_constraint {rule : Rule} {before after : Progress}
    (raises : rule.Raises environment before (.interruption .constraintUnsatisfied) after) :
    ∃ condition, rule = .constraint condition := by
  cases raises with
  | unsatisfied => exact ⟨_, rfl⟩

/-- A rule adds lines to the trace for some of the rules in its tree, in their order.  If
it ends with a signal, unless this is about the depth, the last of these lines names the
rule that the signal is about; and a signal that is no failure comes from a rule in the
tree. -/
theorem execute_traced (environment : Environment) (rule : Rule) (before : Progress) :
    let ended := (rule.execute environment).run.run before
    ∃ lines : List String, ended.2.trace.toList = before.trace.toList ++ lines ∧
      lines.Sublist (rule.preorder.map line) ∧
      lines.length ≤ rule.count ∧
      (∀ signal, ended.1 = .error signal →
        (∀ limit, signal ≠ .failure (.depthExceeded limit)) →
          ∃ name, signal.rule? = some name ∧ lines.getLast? = some (name ++ " executed")) ∧
      (∀ kind, ended.1 = .error (.interruption (.exit kind)) → .exit kind ∈ rule.preorder) ∧
      (ended.1 = .error (.interruption .constraintUnsatisfied) →
        ∃ condition, .constraint condition ∈ rule.preorder) := by
  intro ended
  have sublist := rule.entered_sublist environment before
  refine ⟨(rule.entered environment before).map line, rule.trace_execute environment before,
    sublist.map line, ?_, ?_, ?_, ?_⟩
  · rw [List.length_map, ← rule.length_preorder]
    exact sublist.length_le
  · intro signal failed shallow
    obtain ⟨last, _, _, found, raises⟩ := raises_of_execute_error failed shallow
    rcases raises.names with named | deep
    · refine ⟨last.className, named, ?_⟩
      rw [List.getLast?_map, found]
      rfl
    · exact absurd deep (shallow _)
  · intro kind exited
    obtain ⟨last, _, _, found, raises⟩ := raises_of_execute_error exited nofun
    rw [← raises.eq_exit]
    exact mem_preorder_of_getLast? found
  · intro unsatisfied
    obtain ⟨last, _, _, found, raises⟩ := raises_of_execute_error unsatisfied nofun
    obtain ⟨condition, rfl⟩ := raises.exists_constraint
    exact ⟨condition, mem_preorder_of_getLast? found⟩

/-- Scores, and then looks up a score for which there is no table. -/
def lookUpWithoutTable : Rule :=
  .fragment .response
    [.set .outcomeValue "SCORE" (.baseValue (.integer 1)),
      .condition .response
        (.arm (.baseValue (.boolean false)) [.exit .response]
          (.otherwise [.set .outcomeLookup "SCORE" (.valueOf "SCORE")])),
      .exit .test]

theorem execute_traced_missing_table :
    let store : Store :=
      ⟨[⟨"SCORE", .single .integer, .outcome ⟨none, none, none, none⟩, .integer 0, .null⟩]⟩
    let run := fun (rule : Rule) =>
      (rule.execute ⟨.default, .standard⟩).run.run ⟨store, .ofSeed 0, #[]⟩
    let exiting := Rule.fragment .outcome [.exit .test]
    let demanding := Rule.fragment .outcome [.constraint (.apply .isNull [.valueOf "SCORE"])]
    ((run lookUpWithoutTable).1 =
        .error (.failure (.invalidTarget "lookupOutcomeValue" "SCORE" .noLookupTable)) ∧
      (run lookUpWithoutTable).2.trace.toList.getLast? = some "lookupOutcomeValue executed" ∧
      (run lookUpWithoutTable).2.trace.toList.Sublist (lookUpWithoutTable.preorder.map line)) ∧
    ((run exiting).1 = .error (.interruption (.exit .test)) ∧ .exit .test ∈ exiting.preorder) ∧
    (run demanding).1 = .error (.interruption .constraintUnsatisfied) ∧
      ∃ condition, .constraint condition ∈ demanding.preorder := by
  intro store run exiting demanding
  have told := fun (rule : Rule) =>
    rule.execute_traced ⟨.default, .standard⟩ ⟨store, .ofSeed 0, #[]⟩
  have failed : (run lookUpWithoutTable).1 =
      .error (.failure (.invalidTarget "lookupOutcomeValue" "SCORE" .noLookupTable)) := rfl
  have exited : (run exiting).1 = .error (.interruption (.exit .test)) := rfl
  have unsatisfied : (run demanding).1 = .error (.interruption .constraintUnsatisfied) := rfl
  obtain ⟨lines, trace, sublist, _, last, _, _⟩ := told lookUpWithoutTable
  obtain ⟨_, _, _, _, _, exitOf, _⟩ := told exiting
  obtain ⟨_, _, _, _, _, _, constraintOf⟩ := told demanding
  have same : (run lookUpWithoutTable).2.trace.toList = lines := trace
  obtain ⟨name, named, lastLine⟩ := last _ failed nofun
  cases named
  rw [same]
  exact ⟨⟨failed, lastLine, sublist⟩, ⟨exited, exitOf _ exited⟩, unsatisfied,
    constraintOf unsatisfied⟩

end Assessment.Rule
