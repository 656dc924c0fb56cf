import Assessment.CommandLine
import Assessment.Proofs.ReportOptions

/-!
# Reports have no influence

What the program finds out is determined by its task.  Only when all of it is known, the
options on the report decide what is printed, and the exit code tells whether there is
anything to report.
-/

namespace Assessment.Program

variable {m : Type → Type} [Monad m]

/-- What there is to report about a document. -/
inductive Finding where
  | checked (document : Document)
  | processed (document : Document) (store : Store) (runs : List CompletedRun)

/-- The text of a report in the wanted form. -/
def Finding.text (request : Request) : Finding → String
  | .checked document => summary request.output document
  | .processed document store runs => report request document store runs

/-- Does what is requested, up to the report. -/
def find (surroundings : Surroundings m) (request : Request) : Step m Finding := do
  let document ← loadDocument surroundings request.document
  match request.command with
  | .check => return .checked document
  | .process =>
      let (store, runs) ← processDocument surroundings request document
      return .processed document store runs

/-- What is printed at the end and the exit code. -/
def conclude (request : Request) : Except String Finding → ProgramResult
  | .ok finding => ⟨0, if request.quiet then "" else finding.text request, ""⟩
  | .error message =>
      ⟨1, "", if request.quiet then "" else errorText request.output message⟩

theorem find_task (surroundings : Surroundings m) (request : Request) :
    find surroundings request.task = find surroundings request :=
  rfl

theorem answer_eq_map [LawfulMonad m] (surroundings : Surroundings m) (request : Request) :
    answer surroundings request = Finding.text request <$> find surroundings request := by
  unfold answer find
  rw [map_bind]
  refine bind_congr fun document => ?_
  cases request.command with
  | check => rw [map_pure]; rfl
  | process =>
      rw [map_bind]
      refine bind_congr fun (store, runs) => ?_
      rw [map_pure]
      rfl

/-- The task alone decides what there is to report, and how the program ends. -/
theorem serve_eq_map [LawfulMonad m] (surroundings : Surroundings m) (request : Request) :
    serve surroundings request =
      conclude request <$> (find surroundings request.task).run := by
  rw [serve, answer_eq_map, ExceptT.run_map, find_task, bind_map_left, map_eq_pure_bind]
  refine bind_congr fun found => ?_
  cases found <;> rfl

theorem exit_conclude (request other : Request) (found : Except String Finding) :
    (conclude request found).exit = (conclude other found).exit := by
  cases found <;> rfl

theorem exit_conclude_eq (request : Request) (found : Except String Finding) :
    (conclude request found).exit = 0 ∨ (conclude request found).exit = 1 := by
  cases found with
  | ok finding => exact .inl rfl
  | error message => exact .inr rfl

/-- A program that fails prints no report. -/
theorem output_conclude {request : Request} {found : Except String Finding}
    (failed : (conclude request found).exit = 1) : (conclude request found).output = "" := by
  cases found with
  | ok finding => cases failed
  | error message => rfl

theorem conclude_quiet {request : Request} (quiet : request.quiet = true)
    (found : Except String Finding) :
    (conclude request found).output = "" ∧ (conclude request found).errors = "" := by
  cases found with
  | ok finding => exact ⟨if_pos quiet, rfl⟩
  | error message => exact ⟨rfl, if_pos quiet⟩

/-! ## A program that is not quiet -/

theorem lines_ne_empty {content : List String} (some : content ≠ []) : lines content ≠ "" := by
  cases content with
  | nil => exact absurd rfl some
  | cons line rest => simp [lines, String.join_cons, String.append_eq_empty_iff]

theorem Finding.text_ne_empty (request : Request) (finding : Finding) :
    finding.text request ≠ "" := by
  cases finding with
  | checked document =>
      unfold text summary
      cases request.output with
      | text => exact lines_ne_empty (List.cons_ne_nil _ _)
      | json => exact lines_ne_empty (List.cons_ne_nil _ _)
  | processed document store runs =>
      unfold text report
      cases request.output with
      | text => exact lines_ne_empty (by simp)
      | json => exact lines_ne_empty (List.cons_ne_nil _ _)

theorem errorText_ne_empty (format : OutputFormat) (message : String) :
    errorText format message ≠ "" := by
  cases format with
  | text => exact lines_ne_empty (List.cons_ne_nil _ _)
  | json => exact lines_ne_empty (List.cons_ne_nil _ _)

/-- Unless it is quiet, a program prints either a report or a message. -/
theorem conclude_loud {request : Request} (loud : request.quiet = false)
    (found : Except String Finding) :
    ((conclude request found).output = "" ↔ (conclude request found).exit = 1) ∧
      ((conclude request found).errors = "" ↔ (conclude request found).exit = 0) := by
  cases found with
  | ok finding => simp [conclude, loud, finding.text_ne_empty request]
  | error message => simp [conclude, loud, errorText_ne_empty]

/-! ## The influence of the options -/

/-- Command lines that are the same without the options on the report end with the same
exit code, which says whether the program failed.  If it did, it prints no report; and it
prints nothing at all if one of the options is `--quiet`, and otherwise either a report or
a message. -/
theorem reporting_neutral (surroundings : Surroundings Id) {arguments other : List String}
    (accepted : (Arguments.read? arguments).isSome = true)
    (otherAccepted : (Arguments.read? other).isSome = true)
    (same : Arguments.withoutReporting arguments = Arguments.withoutReporting other) :
    let result : ProgramResult := run surroundings arguments
    let otherResult : ProgramResult := run surroundings other
    result.exit = otherResult.exit ∧ (result.exit = 0 ∨ result.exit = 1) ∧
      (result.exit = 1 → result.output = "") ∧
      ("--quiet" ∈ arguments.takeWhile (· != "--") →
        result.output = "" ∧ result.errors = "") ∧
      ("--quiet" ∉ arguments.takeWhile (· != "--") →
        (result.output = "" ↔ result.exit = 1) ∧ (result.errors = "" ↔ result.exit = 0)) := by
  intro result otherResult
  obtain ⟨request, read⟩ := Option.isSome_iff_exists.mp accepted
  obtain ⟨otherRequest, otherRead⟩ := Option.isSome_iff_exists.mp otherAccepted
  have sameTask : request.task = otherRequest.task := by
    have task := Arguments.read?_withoutReporting read
    rw [same, Arguments.read?_withoutReporting otherRead] at task
    exact (Option.some.inj task).symm
  let found : Except String Finding := (find surroundings request.task).run
  have ended : result = conclude request found := by
    simp only [result, run, read]
    exact serve_eq_map surroundings request
  have otherEnded : otherResult = conclude otherRequest found := by
    simp only [otherResult, run, otherRead, found, sameTask]
    exact serve_eq_map surroundings otherRequest
  rw [ended, otherEnded]
  refine ⟨exit_conclude request otherRequest found, exit_conclude_eq request found,
    output_conclude, ?_, ?_⟩
  · intro asked
    refine conclude_quiet ?_ found
    rw [Arguments.quiet_of_read? read]
    exact List.contains_iff_mem.mpr asked
  · intro unasked
    refine conclude_loud ?_ found
    rw [Arguments.quiet_of_read? read]
    exact Bool.eq_false_iff.mpr (mt List.contains_iff_mem.mp unasked)

/-- The template processing of the only file completes, but there are no responses. -/
def withoutResponses : Surroundings Id where
  read path :=
    if path == "item.json" then
      .text "\x7b\"identifier\":\"item\",\"templateProcessing\":\x7b\x7d\x7d"
    else .absent
  chance _ := .ofSeed 0

theorem reporting_neutral_withoutResponses :
    let arguments := ["process", "item.json", "--trace", "--responses", "answers.json"]
    let other :=
      ["--output=json", "process", "--quiet", "item.json", "--responses", "answers.json"]
    let result : ProgramResult := run withoutResponses arguments
    let otherResult : ProgramResult := run withoutResponses other
    Arguments.withoutReporting arguments = Arguments.withoutReporting other ∧
      result.exit = otherResult.exit ∧ result.exit = 1 ∧ result.output = "" ∧
      result.errors ≠ "" ∧ "--quiet" ∈ other.takeWhile (· != "--") ∧
      otherResult.output = "" ∧ otherResult.errors = "" := by
  intro arguments other result otherResult
  have accepted : (Arguments.read? arguments).isSome = true := by decide +kernel
  have otherAccepted : (Arguments.read? other).isSome = true := by decide +kernel
  have same : Arguments.withoutReporting arguments = Arguments.withoutReporting other := by
    decide +kernel
  have failed : result.exit = 1 := by decide +kernel
  have quiet : "--quiet" ∈ other.takeWhile (· != "--") := by decide
  have loud : "--quiet" ∉ arguments.takeWhile (· != "--") := by decide
  obtain ⟨sameExit, _, noReport, _, spoken⟩ :=
    reporting_neutral withoutResponses accepted otherAccepted same
  obtain ⟨_, _, _, silent, _⟩ :=
    reporting_neutral withoutResponses otherAccepted accepted same.symm
  have message : result.errors ≠ "" := by
    rw [Ne, (spoken loud).2, failed]
    decide
  exact ⟨same, sameExit, failed, noReport failed, message, quiet, silent quiet⟩

end Assessment.Program
