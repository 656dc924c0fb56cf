import Assessment.Evaluation
import Assessment.Rule

/-!
# Execution of rules

A rule either completes, fails, or raises an exit or an unsatisfied constraint, which
ends the rules around it as well.  What it has written to the store until then stays
written.  `Rule.execute` runs one rule with everything nested in it.
-/

namespace Assessment

/-- What ends rules without being an error. -/
inductive Interruption where
  | exit (kind : ExitKind)
  | constraintUnsatisfied
  deriving DecidableEq, Repr

/-- The name of the rule that raised the interruption. -/
def Interruption.name : Interruption → String
  | .exit kind => kind.className
  | .constraintUnsatisfied => "templateConstraint"

/-- The kinds of processing are named like the families of rules. -/
abbrev ProcessingKind := RuleFamily

def ProcessingKind.title (kind : ProcessingKind) : String :=
  RuleFamily.name kind ++ " processing"

/-- Why a variable cannot be the target of an assignment. -/
inductive TargetFault where
  | wrongRole (expected got : RoleKind)
  | noLookupTable
  deriving DecidableEq, Repr

def TargetFault.message : TargetFault → String
  | .wrongRole expected got =>
      "expected a " ++ expected.name ++ " variable, found a " ++ got.name ++ " variable"
  | .noLookupTable => "no lookup table declared"

inductive RuleError where
  | expression (rule : String) (cause : EvalError)
  | store (rule : String) (cause : StoreError)
  | invalidTarget (rule identifier : String) (fault : TargetFault)
  | unsupported (rule : String)
  | unexpectedSignal (signal : Interruption) (during : ProcessingKind)
  | depthExceeded (limit : Nat)
  | templateNotFound (name : String)
  | templateFailed (name reason : String)
  deriving DecidableEq, Repr

def RuleError.message : RuleError → String
  | .expression rule cause => rule ++ ": " ++ cause.message
  | .store rule cause => rule ++ ": " ++ cause.message
  | .invalidTarget rule identifier fault =>
      rule ++ " '" ++ identifier ++ "': " ++ fault.message
  | .unsupported rule => rule ++ " is not supported in item processing"
  | .unexpectedSignal signal during =>
      signal.name ++ " raised during " ++ ProcessingKind.title during
  | .depthExceeded limit => s!"rule nesting exceeds the limit of {limit}"
  | .templateNotFound name => "template not found: " ++ name
  | .templateFailed name reason => "template '" ++ name ++ "' could not be loaded: " ++ reason

/-- What stops a rule before its end. -/
inductive Signal where
  | interruption (cause : Interruption)
  | failure (error : RuleError)
  deriving DecidableEq, Repr

namespace Signal

def message : Signal → String
  | .interruption cause => cause.name
  | .failure error => error.message

/-- The signal as an error of processing that does not handle it. -/
def asError (during : ProcessingKind) : Signal → RuleError
  | .interruption cause => .unexpectedSignal cause during
  | .failure error => error

end Signal

/-- What changes while rules are executed.  The trace has a line for each rule that was
entered. -/
structure Progress where
  store : Store
  source : RandomSource
  trace : Array String

/-- A computation that works on the store.  What it did before a signal stays done. -/
abbrev Execution := ExceptT Signal (StateM Progress)

namespace Execution

def fail {α : Type} (error : RuleError) : Execution α :=
  throw (.failure error)

/-- The value of an expression over the current store. -/
def evaluate (environment : Environment) (rule : String) (expression : Expression) :
    Execution Value := do
  let progress ← get
  let (result, source) := (expression.evaluate (environment.over progress.store)).run.run
    progress.source
  set { progress with source }
  match result with
  | .ok value => return value
  | .error cause => fail (.expression rule cause)

/-- Changes the store unless the change fails. -/
def write (rule : String) (change : Store → Except StoreError Store) : Execution Unit := do
  let progress ← get
  match change progress.store with
  | .ok store => set { progress with store }
  | .error cause => fail (.store rule cause)

/-- Notes that a rule is entered, unless it stands too deep. -/
def enter (environment : Environment) (depth : Nat) (rule : Rule) : Execution Unit :=
  if environment.settings.maxRuleDepth < depth then
    fail (.depthExceeded environment.settings.maxRuleDepth)
  else
    modify fun progress =>
      { progress with trace := progress.trace.push (rule.className ++ " executed") }

end Execution

/-! ## Assignments -/

namespace AssignmentKind

/-- The role that the target of an assignment has to have; every variable has a default
value. -/
def role? : AssignmentKind → Option RoleKind
  | .outcomeValue | .outcomeLookup => some .outcome
  | .templateValue => some .template
  | .correctResponse => some .response
  | .defaultValue => none

end AssignmentKind

namespace Variable

/-- What the lookup table of an outcome gives for a value; NULL looks up the default. -/
def lookUp (v : Variable) (value : Value) : Except RuleError Value :=
  let rule := AssignmentKind.outcomeLookup.className
  match v.outcomeInfo?.bind (·.lookupTable) with
  | none => .error (.invalidTarget rule v.identifier .noLookupTable)
  | some table =>
      match value with
      | .null => .ok (Collection.ofScalar? table.default)
      | .single scalar =>
          match table.lookup? scalar with
          | some target => .ok (Collection.ofScalar? target)
          | none =>
              .error (.expression rule
                (.wrongBaseType rule 0 "integer or float" value.typeName))
      | _ => .error (.expression rule (.wrongCardinality rule 0 "single" value.typeName))

end Variable

namespace Assignment

/-- Finds the target, which must have the right role. -/
def target? (assignment : Assignment) (store : Store) : Except RuleError Variable :=
  let rule := assignment.kind.className
  match store.get assignment.target with
  | .error cause => .error (.store rule cause)
  | .ok v =>
      match assignment.kind.role? with
      | none => .ok v
      | some role =>
          if v.role.kind = role then .ok v
          else .error (.invalidTarget rule assignment.target (.wrongRole role v.role.kind))

/-- Writes a value to the place that the assignment names. -/
def store (assignment : Assignment) (v : Variable) (value : Value) : Execution Unit := do
  let rule := assignment.kind.className
  match assignment.kind with
  | .outcomeValue | .templateValue =>
      Execution.write rule fun store => store.setValue assignment.target value
  | .outcomeLookup =>
      match v.lookUp value with
      | .ok found => Execution.write rule fun store => store.setValue assignment.target found
      | .error error => Execution.fail error
  | .correctResponse =>
      Execution.write rule fun store => store.setCorrect assignment.target value
  | .defaultValue =>
      Execution.write rule fun store => store.setDefault assignment.target value

/-- Checks the target, evaluates the expression and writes its value. -/
def execute (environment : Environment) (assignment : Assignment) : Execution Unit := do
  match assignment.target? (← get).store with
  | .error error => Execution.fail error
  | .ok v =>
      let value ← Execution.evaluate environment assignment.kind.className
        assignment.expression
      assignment.store v value

end Assignment

/-! ## Rules -/

/-- Demands that an expression is true. -/
def Execution.demand (environment : Environment) (rule : String) (condition : Expression) :
    Execution Unit := do
  let verdict ← Execution.evaluate environment rule condition
  if verdict.isTrue then return ()
  else throw (.interruption .constraintUnsatisfied)

mutual

/-- Executes a rule that stands at the given depth. -/
def Rule.executeAt (environment : Environment) (depth : Nat) (rule : Rule) :
    Execution Unit := do
  Execution.enter environment depth rule
  match rule with
  | .assign assignment => assignment.execute environment
  | .condition family arms =>
      Arms.executeAt environment family.conditionName (depth + 1) arms
  | .exit kind => throw (.interruption (.exit kind))
  | .constraint condition => Execution.demand environment "templateConstraint" condition
  | .branch .. => Execution.fail (.unsupported "branchRule")
  | .fragment _ rules => Rule.executeAllAt environment (depth + 1) rules

/-- Executes the first arm whose guard is true, or else the last part.  The rules of the
arms stand at the given depth. -/
def Arms.executeAt (environment : Environment) (name : String) (depth : Nat) (arms : Arms) :
    Execution Unit := do
  match arms with
  | .done => return ()
  | .otherwise rules => Rule.executeAllAt environment depth rules
  | .arm guard rules rest =>
      let verdict ← Execution.evaluate environment name guard
      if verdict.isTrue then Rule.executeAllAt environment depth rules
      else Arms.executeAt environment name depth rest

/-- Executes rules in order up to the first signal. -/
def Rule.executeAllAt (environment : Environment) (depth : Nat) (rules : List Rule) :
    Execution Unit := do
  match rules with
  | [] => return ()
  | rule :: rest =>
      Rule.executeAt environment depth rule
      Rule.executeAllAt environment depth rest

end

namespace Rule

/-- Executes a rule with everything nested in it. -/
def execute (environment : Environment) (rule : Rule) : Execution Unit :=
  executeAt environment 1 rule

/-- Executes rules in order up to the first signal. -/
def executeAll (environment : Environment) (rules : List Rule) : Execution Unit :=
  executeAllAt environment 1 rules

end Rule

/-- The target of a branch rule if its guard is true. -/
def branchTarget (context : Context) (target : String) (guard : Expression) :
    Evaluation (Option String) := do
  let verdict ← guard.evaluate context
  return if verdict.isTrue then some target else none

end Assessment
