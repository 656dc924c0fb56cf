import Assessment.Execution

/-!
# Engines

An engine runs the rules of a block of processing on a store.  Response processing
runs every rule and collects the failures; outcome processing stops at the first one;
template processing starts again as long as its constraints are not satisfied.  A
`Processor` runs once.
-/

namespace Assessment

/-- How a run ended that did not fail. -/
structure Report where
  /-- An exit rule of the engine ended the run early. -/
  exited : Bool
  attempts : Nat
  constraintSatisfied : Bool
  deriving DecidableEq, Repr

inductive Status where
  | idle
  | completed
  | failed
  deriving DecidableEq, Repr

def Status.name : Status → String
  | .idle => "idle"
  | .completed => "completed"
  | .failed => "failed"

/-- Why a run failed. -/
inductive ProcessingError where
  | rule (error : RuleError)
  | aggregate (failures : List RuleError)
  | notIdle (status : Status)
  deriving DecidableEq, Repr

namespace ProcessingError

def failures : ProcessingError → List RuleError
  | .rule error => [error]
  | .aggregate failures => failures
  | .notIdle _ => []

def message : ProcessingError → String
  | .rule error => error.message
  | .aggregate failures =>
      "; ".intercalate
        (s!"{failures.length} rule(s) failed" :: failures.map RuleError.message)
  | .notIdle status => "processor cannot run from status " ++ status.name

end ProcessingError

namespace Engine

/-- What a run of an engine gives, with the progress it made. -/
abbrev Run := StateM Progress (Except ProcessingError Report)

/-! ## Response processing -/

/-- Runs rules up to an exit, and gives the failures on the way and whether there was
an exit. -/
def collectFailures (environment : Environment) :
    List Rule → StateM Progress (List RuleError × Bool)
  | [] => return ([], false)
  | rule :: rules => do
      match ← (rule.execute environment).run with
      | .ok () => collectFailures environment rules
      | .error (.interruption (.exit .response)) => return ([], true)
      | .error signal =>
          let (failures, exited) ← collectFailures environment rules
          return (signal.asError .response :: failures, exited)

def runResponse (environment : Environment) (rules : List Rule) : Run := do
  let (failures, exited) ← collectFailures environment rules
  return if failures.isEmpty then .ok ⟨exited, 1, true⟩ else .error (.aggregate failures)

/-! ## Outcome processing -/

def runOutcome (environment : Environment) (rules : List Rule) : Run := do
  match ← (Rule.executeAll environment rules).run with
  | .ok () => return .ok ⟨false, 1, true⟩
  | .error (.interruption (.exit .test)) => return .ok ⟨true, 1, true⟩
  | .error signal => return .error (.rule (signal.asError .outcome))

/-! ## Template processing -/

def resetTemplates : StateM Progress Unit :=
  modify fun progress => { progress with store := progress.store.resetTemplates }

/-- Tries to satisfy the constraints, with `done` attempts behind and so many more
allowed.  Each attempt starts with template variables that are reset. -/
def attempt (environment : Environment) (rules : List Rule) (done : Nat) : Nat → Run
  | 0 => do
      resetTemplates
      return .ok ⟨false, done, false⟩
  | more + 1 => do
      resetTemplates
      match ← (Rule.executeAll environment rules).run with
      | .ok () => return .ok ⟨false, done + 1, true⟩
      | .error (.interruption (.exit .template)) => return .ok ⟨true, done + 1, true⟩
      | .error (.interruption .constraintUnsatisfied) =>
          attempt environment rules (done + 1) more
      | .error signal => return .error (.rule (signal.asError .template))

/-- There is always at least one attempt. -/
def runTemplate (environment : Environment) (rules : List Rule) : Run :=
  attempt environment rules 0 (max environment.settings.maxTemplateAttempts 1)

/-- Runs the rules of a block. -/
def run (environment : Environment) (kind : ProcessingKind) (rules : List Rule) : Run :=
  match kind with
  | .template => runTemplate environment rules
  | .response => runResponse environment rules
  | .outcome => runOutcome environment rules

end Engine

/-- A single run of a block of processing. -/
structure Processor where
  kind : ProcessingKind
  status : Status
  trace : Array String

namespace Processor

def ofKind (kind : ProcessingKind) : Processor :=
  ⟨kind, .idle, #[]⟩

/-- What a processor gives, and its state and the store afterwards. -/
structure Result where
  outcome : Except ProcessingError Report
  processor : Processor
  store : Store

/-- Runs the rules that the template of a block resolved to.  A processor that has run
does not run again. -/
def run (environment : Environment) (source : RandomSource)
    (resolved : Except RuleError (List Rule)) (store : Store) (processor : Processor) :
    Result :=
  if processor.status ≠ .idle then
    ⟨.error (.notIdle processor.status), processor, store⟩
  else
    match resolved with
    | .error error =>
        ⟨.error (.rule error), { processor with status := .failed }, store⟩
    | .ok rules =>
        let (outcome, progress) :=
          (Engine.run environment processor.kind rules).run ⟨store, source, #[]⟩
        let status := match outcome with
          | .ok _ => Status.completed
          | .error _ => Status.failed
        ⟨outcome, { processor with status, trace := progress.trace }, progress.store⟩

end Processor

end Assessment
