import Assessment.CommandLine.Arguments

/-!
# Options on the report

The arguments of an accepted command line are read in steps: names, options with their
values, and switches.  The options on the report only touch what is known about the
report: without them the arguments ask for the same task, and `--quiet` makes the program
quiet wherever it stands.
-/

namespace Assessment

/-- The request with nothing said about the report. -/
def Request.task (request : Request) : Request :=
  { request with trace := false, output := .text, quiet := false }

namespace Arguments

/-- Whether an argument on its own is an option on the report. -/
def isReporting (argument : String) : Bool :=
  match splitValue? argument with
  | some (name, _) => name == "--output"
  | none => argument == "--quiet" || argument == "--trace"

/-- The arguments without the options on the report.  The format may follow `--output` as
the next argument, and behind `--` there are no options. -/
def withoutReporting : List String → List String
  | [] => []
  | argument :: rest =>
      if argument == "--" then argument :: rest
      else if argument == "--output" then
        match rest with
        | [] => []
        | _ :: rest => withoutReporting rest
      else if isReporting argument then withoutReporting rest
      else argument :: withoutReporting rest

/-- What the arguments have said so far, with nothing said about the report. -/
def Found.task (found : Found) : Found :=
  { found with trace := false, before := Reporting.none, reporting := Reporting.none }

/-- The request that has been found, if the command and the document have. -/
def Found.request? (found : Found) : Option Request := do
  let command ← found.command
  let document ← found.document
  return {
    command
    document
    responses := found.responses
    config := found.config
    seed := found.seed
    trace := found.trace
    output := found.output
    quiet := found.quiet }

/-! ## Reading in steps -/

variable {onlyNames : Bool} {found next after : Found} {argument name value : String}
  {arguments rest : List String} {option : ValueOption}

/-- Arguments are read one after another. -/
inductive Reading : Bool → Found → List String → Found → Prop where
  | done {onlyNames : Bool} {found : Found} : Reading onlyNames found [] found
  | name {onlyNames : Bool} {found next after : Found} {name : String} {rest : List String} :
      (onlyNames = false → isOption name = false) → found.addName? name = some next →
      Reading onlyNames next rest after → Reading onlyNames found (name :: rest) after
  | names {found after : Found} {rest : List String} :
      found.command.isSome = true → Reading true found rest after →
      Reading false found ("--" :: rest) after
  | attached {found next after : Found} {argument name value : String} {option : ValueOption}
      {rest : List String} :
      isOption argument = true → splitValue? argument = some (name, value) →
      valueOption? found name = some option → found.setValue? option value = some next →
      Reading false next rest after → Reading false found (argument :: rest) after
  | separate {found next after : Found} {argument value : String} {option : ValueOption}
      {rest : List String} :
      isOption argument = true → splitValue? argument = none →
      valueOption? found argument = some option → isOption value = false →
      found.setValue? option value = some next →
      Reading false next rest after → Reading false found (argument :: value :: rest) after
  | switch {found next after : Found} {argument : String} {rest : List String} :
      isOption argument = true → splitValue? argument = none →
      valueOption? found argument = none → found.setSwitch? argument = some next →
      Reading false next rest after → Reading false found (argument :: rest) after

theorem beq_dashes_of_not_option (isName : isOption name = false) : (name == "--") = false := by
  refine beq_eq_false_iff_ne.mpr ?_
  rintro rfl
  cases isName

theorem reading_of_collect? (read : collect? onlyNames found arguments = some after) :
    Reading onlyNames found arguments after := by
  fun_induction collect? onlyNames found arguments with
  | case1 =>
      cases read
      exact .done
  | case2 found name rest induction =>
      obtain ⟨next, added, read⟩ := Option.bind_eq_some_iff.mp read
      exact .name nofun added (induction next read)
  | case3 found argument rest dashes command induction =>
      rw [eq_of_beq dashes]
      exact .names command (induction read)
  | case4 => cases read
  | case5 found argument rest _ isName induction =>
      obtain ⟨next, added, read⟩ := Option.bind_eq_some_iff.mp read
      exact .name (fun _ => by simpa using isName) added (induction next read)
  | case6 found argument rest _ isOption name value split induction =>
      obtain ⟨option, known, read⟩ := Option.bind_eq_some_iff.mp read
      obtain ⟨next, set, read⟩ := Option.bind_eq_some_iff.mp read
      exact .attached (by simpa using isOption) split known set (induction next read)
  | case7 => cases read
  | case8 found argument _ isOption split option value rest known isValue induction =>
      obtain ⟨next, set, read⟩ := Option.bind_eq_some_iff.mp read
      exact .separate (by simpa using isOption) split known (by simpa using isValue) set
        (induction next read)
  | case9 => cases read
  | case10 found argument _ isOption split rest unknown induction =>
      obtain ⟨next, set, read⟩ := Option.bind_eq_some_iff.mp read
      exact .switch (by simpa using isOption) split unknown set (induction next read)

theorem collect?_of_reading (reading : Reading onlyNames found arguments after) :
    collect? onlyNames found arguments = some after := by
  induction reading with
  | done => rw [collect?]
  | @name onlyNames _ _ _ _ _ isName added _ induction =>
      rw [collect?.eq_def]
      cases onlyNames with
      | true => simp [added, induction]
      | false => simp [beq_dashes_of_not_option (isName rfl), isName, added, induction]
  | names command _ induction =>
      rw [collect?.eq_def]
      simp [command, induction]
  | @attached _ _ _ argument _ _ _ _ isOption split known set _ induction =>
      have noDashes : argument ≠ "--" := by rintro rfl; cases split
      rw [collect?.eq_def]
      simp [noDashes, isOption, split, known, set, induction]
  | @separate _ _ _ argument _ _ _ isOption split known isValue set _ induction =>
      have noDashes : argument ≠ "--" := by rintro rfl; cases known
      rw [collect?.eq_def]
      simp [noDashes, isOption, split, known, isValue, set, induction]
  | @switch _ _ _ argument _ isOption split unknown set _ induction =>
      have noDashes : argument ≠ "--" := by rintro rfl; cases set
      rw [collect?.eq_def]
      simp [noDashes, isOption, split, unknown, set, induction]

/-! ## Steps without the options on the report -/

theorem addName?_task (found : Found) (name : String) :
    found.task.addName? name = (found.addName? name).map Found.task := by
  obtain ⟨command, document, _, _, _, _, _, _⟩ := found
  cases command with
  | none =>
      simp only [Found.addName?, Found.task]
      split <;> rfl
  | some command =>
      cases document with
      | none =>
          simp only [Found.addName?, Found.task]
          cases path? name <;> rfl
      | some document => rfl

theorem setValue?_task (found : Found) (value : String) (other : option ≠ .output) :
    found.task.setValue? option value = (found.setValue? option value).map Found.task := by
  obtain ⟨_, _, responses, config, seed, _, _, _⟩ := found
  cases option with
  | output => exact absurd rfl other
  | responses =>
      simp only [Found.setValue?, Found.task]
      cases path? value with
      | none => rfl
      | some path => cases responses <;> rfl
  | config =>
      simp only [Found.setValue?, Found.task]
      cases path? value with
      | none => rfl
      | some path => cases config <;> rfl
  | seed =>
      simp only [Found.setValue?, Found.task]
      cases seed? value with
      | none => rfl
      | some number => cases seed <;> rfl

/-- An option with a value is the one on the report, or it does what it does without
those. -/
theorem task_of_setValue? (set : found.setValue? option value = some next) :
    option = .output ∧ next.task = found.task ∨
      option ≠ .output ∧ found.task.setValue? option value = some next.task := by
  by_cases output : option = .output
  · subst output
    obtain ⟨format, _, set⟩ := Option.bind_eq_some_iff.mp set
    split at set
    next => cases set
    next => cases set; exact .inl ⟨rfl, rfl⟩
  · rw [setValue?_task found value output, set]
    exact .inr ⟨output, rfl⟩

theorem setSwitch?_cases (set : found.setSwitch? argument = some next) :
    argument = "--quiet" ∧
        next = { found with reporting := { found.reporting with quiet := true } } ∨
      argument = "--trace" ∧ next = { found with trace := true } := by
  unfold Found.setSwitch? at set
  split at set
  next =>
    split at set
    next => cases set
    next => cases set; exact .inl ⟨rfl, rfl⟩
  next =>
    split at set
    next => cases set
    next => cases set; exact .inr ⟨rfl, rfl⟩
  next => cases set

theorem task_of_setSwitch? (set : found.setSwitch? argument = some next) :
    next.task = found.task ∧ isReporting argument = true := by
  obtain ⟨rfl, rfl⟩ | ⟨rfl, rfl⟩ := setSwitch?_cases set
  · exact ⟨rfl, rfl⟩
  · exact ⟨rfl, rfl⟩

theorem eq_output_iff (known : valueOption? found name = some option) :
    option = .output ↔ name = "--output" := by
  unfold valueOption? at known
  split at known
  next => simpa using known.symm
  next =>
    cases (Option.ite_none_right_eq_some.mp known).2
    simp
  next =>
    cases (Option.ite_none_right_eq_some.mp known).2
    simp
  next =>
    cases (Option.ite_none_right_eq_some.mp known).2
    simp
  next => cases known

theorem isOption_of_splitValue? (split : splitValue? argument = some ("--output", value)) :
    isOption argument = true := by
  simp only [splitValue?] at split
  split at split
  next =>
    simp only [Option.some.injEq, Prod.mk.injEq] at split
    have front : argument.toList.takeWhile (· != '=') = "--output".toList := by
      rw [← split.1, String.toList_ofList]
    unfold isOption
    rw [← List.takeWhile_append_dropWhile (p := (· != '=')) (l := argument.toList), front]
    rfl
  next => cases split

/-! ## Arguments without the options on the report -/

theorem withoutReporting_cons_dashes : withoutReporting ("--" :: rest) = "--" :: rest := by
  rw [withoutReporting.eq_def]
  rfl

theorem withoutReporting_cons_output :
    withoutReporting ("--output" :: value :: rest) = withoutReporting rest := by
  rw [withoutReporting.eq_def]
  rfl

theorem withoutReporting_cons (noDashes : argument ≠ "--") (noOutput : argument ≠ "--output")
    (other : isReporting argument = false) :
    withoutReporting (argument :: rest) = argument :: withoutReporting rest := by
  rw [withoutReporting.eq_def]
  simp [noDashes, noOutput, other]

theorem withoutReporting_cons_of_isReporting (reporting : isReporting argument = true) :
    withoutReporting (argument :: rest) = withoutReporting rest := by
  have noDashes : argument ≠ "--" := by rintro rfl; cases reporting
  have noOutput : argument ≠ "--output" := by rintro rfl; cases reporting
  rw [withoutReporting.eq_def]
  simp [noDashes, noOutput, reporting]

theorem isReporting_of_not_option (isName : isOption name = false) : isReporting name = false := by
  unfold isReporting
  split
  next front value split =>
    refine beq_eq_false_iff_ne.mpr ?_
    rintro rfl
    rw [isOption_of_splitValue? split] at isName
    cases isName
  next =>
    have noQuiet : name ≠ "--quiet" := by rintro rfl; cases isName
    have noTrace : name ≠ "--trace" := by rintro rfl; cases isName
    simp [noQuiet, noTrace]

theorem withoutReporting_cons_of_not_option (isName : isOption name = false) :
    withoutReporting (name :: rest) = name :: withoutReporting rest := by
  have noDashes : name ≠ "--" := by rintro rfl; cases isName
  have noOutput : name ≠ "--output" := by rintro rfl; cases isName
  exact withoutReporting_cons noDashes noOutput (isReporting_of_not_option isName)

/-- The steps that are left without the options on the report do what they did. -/
theorem Reading.task (reading : Reading onlyNames found arguments after) :
    Reading onlyNames found.task
      (if onlyNames then arguments else withoutReporting arguments) after.task := by
  induction reading with
  | @done onlyNames _ => cases onlyNames <;> exact .done
  | @name onlyNames found next _ name _ isName added _ induction =>
      have addedTask : found.task.addName? name = some next.task := by
        rw [addName?_task, added]
        rfl
      cases onlyNames with
      | true => exact .name isName addedTask induction
      | false =>
          rw [if_neg Bool.false_ne_true, withoutReporting_cons_of_not_option (isName rfl)]
          exact .name isName addedTask induction
  | names command _ induction =>
      rw [if_neg Bool.false_ne_true, withoutReporting_cons_dashes]
      exact .names command induction
  | @attached _ _ _ argument name _ _ _ isOption split known set _ induction =>
      have reporting : isReporting argument = (name == "--output") := by
        simp only [isReporting, split]
      rcases task_of_setValue? set with ⟨output, same⟩ | ⟨other, setTask⟩
      · rw [beq_iff_eq.mpr ((eq_output_iff known).mp output)] at reporting
        rw [if_neg Bool.false_ne_true, withoutReporting_cons_of_isReporting reporting, ← same]
        exact induction
      · have noDashes : argument ≠ "--" := by rintro rfl; cases split
        have noOutput : argument ≠ "--output" := by rintro rfl; cases split
        rw [beq_eq_false_iff_ne.mpr (mt (eq_output_iff known).mpr other)] at reporting
        rw [if_neg Bool.false_ne_true, withoutReporting_cons noDashes noOutput reporting]
        exact .attached isOption split known setTask induction
  | @separate _ _ _ argument _ _ _ isOption split known isValue set _ induction =>
      rcases task_of_setValue? set with ⟨output, same⟩ | ⟨other, setTask⟩
      · rw [(eq_output_iff known).mp output, if_neg Bool.false_ne_true,
          withoutReporting_cons_output, ← same]
        exact induction
      · have noDashes : argument ≠ "--" := by rintro rfl; cases known
        have noOutput : argument ≠ "--output" := mt (eq_output_iff known).mpr other
        have notReporting : isReporting argument = false := by
          have noQuiet : argument ≠ "--quiet" := by rintro rfl; cases known
          have noTrace : argument ≠ "--trace" := by rintro rfl; cases known
          simp [isReporting, split, noQuiet, noTrace]
        rw [if_neg Bool.false_ne_true, withoutReporting_cons noDashes noOutput notReporting,
          withoutReporting_cons_of_not_option isValue]
        exact .separate isOption split known isValue setTask induction
  | switch isOption split unknown set _ induction =>
      obtain ⟨same, reporting⟩ := task_of_setSwitch? set
      rw [if_neg Bool.false_ne_true, withoutReporting_cons_of_isReporting reporting, ← same]
      exact induction

theorem read?_eq_bind (arguments : List String) :
    read? arguments = (collect? false Found.none arguments).bind Found.request? :=
  rfl

theorem request?_task (found : Found) : found.task.request? = found.request?.map Request.task := by
  obtain ⟨command, document, _, _, _, _, _, _⟩ := found
  cases command with
  | none => rfl
  | some command => cases document <;> rfl

theorem read?_withoutReporting {request : Request} (read : read? arguments = some request) :
    read? (withoutReporting arguments) = some request.task := by
  obtain ⟨found, collected, finished⟩ := Option.bind_eq_some_iff.mp read
  have collectedTask : collect? false Found.none (withoutReporting arguments) = some found.task :=
    collect?_of_reading (reading_of_collect? collected).task
  have finishedTask : found.request? = some request := finished
  rw [read?_eq_bind, collectedTask, Option.bind_some, request?_task, finishedTask]
  rfl

/-! ## Quiet command lines -/

/-- Whether `--quiet` has been read.  Nothing counts as standing before the command until
there is one. -/
def Found.silenced (found : Found) : Bool :=
  found.reporting.quiet || (found.command.isSome && found.before.quiet)

theorem quiet_eq_silenced (command : found.command.isSome = true) :
    found.quiet = found.silenced := by
  rw [Found.quiet, Found.silenced, command, Bool.true_and]

theorem silenced_of_addName? (added : found.addName? name = some next) :
    next.silenced = found.silenced := by
  obtain ⟨command, document, _, _, _, _, _, _⟩ := found
  cases command with
  | none =>
      simp only [Found.addName?] at added
      split at added
      next => cases added; simp [Found.silenced, Found.setCommand, Reporting.none]
      next => cases added; simp [Found.silenced, Found.setCommand, Reporting.none]
      next => cases added
  | some command =>
      cases document with
      | none =>
          obtain ⟨path, _, added⟩ := Option.bind_eq_some_iff.mp added
          cases added
          rfl
      | some document => cases added

theorem silenced_of_setValue? (set : found.setValue? option value = some next) :
    next.silenced = found.silenced := by
  cases option with
  | output | responses | config | seed =>
      obtain ⟨_, _, set⟩ := Option.bind_eq_some_iff.mp set
      split at set
      next => cases set
      next => cases set; rfl

theorem silenced_of_setSwitch? (set : found.setSwitch? argument = some next) :
    next.silenced = (found.silenced || argument == "--quiet") := by
  obtain ⟨rfl, rfl⟩ | ⟨rfl, rfl⟩ := setSwitch?_cases set
  · simp [Found.silenced]
  · simp [Found.silenced]

theorem contains_quiet_cons (noDashes : argument ≠ "--") :
    ((argument :: rest).takeWhile (· != "--")).contains "--quiet" =
      (argument == "--quiet" || (rest.takeWhile (· != "--")).contains "--quiet") := by
  have taken : (argument != "--") = true := bne_iff_ne.mpr noDashes
  rw [List.takeWhile_cons, if_pos taken, List.contains_cons, Bool.beq_comm]

theorem contains_quiet_cons_of_ne (noDashes : argument ≠ "--") (noQuiet : argument ≠ "--quiet") :
    ((argument :: rest).takeWhile (· != "--")).contains "--quiet" =
      (rest.takeWhile (· != "--")).contains "--quiet" := by
  rw [contains_quiet_cons noDashes, beq_eq_false_iff_ne.mpr noQuiet, Bool.false_or]

theorem contains_quiet_cons_of_not_option (isName : isOption name = false) :
    ((name :: rest).takeWhile (· != "--")).contains "--quiet" =
      (rest.takeWhile (· != "--")).contains "--quiet" := by
  refine contains_quiet_cons_of_ne ?_ ?_
  · rintro rfl
    cases isName
  · rintro rfl
    cases isName

/-- `--quiet` has been read if it stands somewhere before `--`. -/
theorem Reading.silenced (reading : Reading onlyNames found arguments after) :
    after.silenced =
      (found.silenced ||
        (!onlyNames && (arguments.takeWhile (· != "--")).contains "--quiet")) := by
  induction reading with
  | done => simp
  | @name onlyNames _ _ _ _ _ isName added _ induction =>
      rw [induction, silenced_of_addName? added]
      cases onlyNames with
      | true => rfl
      | false => rw [contains_quiet_cons_of_not_option (isName rfl)]
  | names _ _ induction => simp [induction]
  | attached _ split _ set _ induction =>
      rw [induction, silenced_of_setValue? set, contains_quiet_cons_of_ne]
      · rintro rfl
        cases split
      · rintro rfl
        cases split
  | separate _ _ known isValue set _ induction =>
      rw [induction, silenced_of_setValue? set, contains_quiet_cons_of_ne,
        contains_quiet_cons_of_not_option isValue]
      · rintro rfl
        cases known
      · rintro rfl
        cases known
  | switch _ _ _ set _ induction =>
      rw [induction, silenced_of_setSwitch? set, contains_quiet_cons, Bool.or_assoc]
      · rfl
      · rintro rfl
        cases set

theorem quiet_of_request? {request : Request} (finished : found.request? = some request) :
    request.quiet = found.silenced := by
  obtain ⟨command, isCommand, finished⟩ := Option.bind_eq_some_iff.mp finished
  obtain ⟨document, _, finished⟩ := Option.bind_eq_some_iff.mp finished
  cases finished
  exact quiet_eq_silenced (Option.isSome_of_eq_some isCommand)

/-- A command line asks for quiet exactly if `--quiet` stands before `--` in it. -/
theorem quiet_of_read? {request : Request} (read : read? arguments = some request) :
    request.quiet = (arguments.takeWhile (· != "--")).contains "--quiet" := by
  obtain ⟨found, collected, finished⟩ := Option.bind_eq_some_iff.mp read
  rw [quiet_of_request? finished, (reading_of_collect? collected).silenced]
  simp [Found.silenced, Found.none, Reporting.none]

end Arguments

end Assessment
