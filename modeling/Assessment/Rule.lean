import Assessment.Expression

/-!
# Rules

Rules assign to variables, branch, exit, or demand a constraint.  A conditional is a
chain of arms that ends with or without an `else` part.  Names of rules tell which
kind of processing they were written for, which does not change what they do.
-/

namespace Assessment

inductive ExitKind where
  | response
  | template
  | test
  deriving DecidableEq, Repr

def ExitKind.className : ExitKind → String
  | .response => "exitResponse"
  | .template => "exitTemplate"
  | .test => "exitTest"

/-- The processing that a conditional or fragment belongs to. -/
inductive RuleFamily where
  | response
  | outcome
  | template
  deriving DecidableEq, Repr

namespace RuleFamily

def name : RuleFamily → String
  | .response => "response"
  | .outcome => "outcome"
  | .template => "template"

def conditionName : RuleFamily → String
  | .response => "responseCondition"
  | .outcome => "outcomeCondition"
  | .template => "templateCondition"

/-- There are no fragments of template processing. -/
def fragmentName : RuleFamily → String
  | .outcome => "outcomeProcessingFragment"
  | _ => "responseProcessingFragment"

end RuleFamily

/-- What an assignment writes. -/
inductive AssignmentKind where
  | outcomeValue
  | templateValue
  | correctResponse
  | defaultValue
  | outcomeLookup
  deriving DecidableEq, Repr

namespace AssignmentKind

def className : AssignmentKind → String
  | .outcomeValue => "setOutcomeValue"
  | .templateValue => "setTemplateValue"
  | .correctResponse => "setCorrectResponse"
  | .defaultValue => "setDefaultValue"
  | .outcomeLookup => "lookupOutcomeValue"

end AssignmentKind

structure Assignment where
  kind : AssignmentKind
  target : String
  expression : Expression

mutual

inductive Rule where
  | assign (assignment : Assignment)
  | condition (family : RuleFamily) (arms : Arms)
  | exit (kind : ExitKind)
  | constraint (condition : Expression)
  | branch (target : String) (guard : Expression)
  | fragment (family : RuleFamily) (rules : List Rule)

/-- The arms of a conditional. -/
inductive Arms where
  | done
  | otherwise (rules : List Rule)
  | arm (guard : Expression) (rules : List Rule) (rest : Arms)

end

namespace Arms

/-- The guarded arms in order. -/
def guarded : Arms → List (Expression × List Rule)
  | .arm guard rules rest => (guard, rules) :: guarded rest
  | .done => []
  | .otherwise _ => []

/-- The rules of the `else` part, if there is one. -/
def otherwise? : Arms → Option (List Rule)
  | .arm _ _ rest => otherwise? rest
  | .otherwise rules => some rules
  | .done => none

/-- The chain of guarded arms and an `else` part. -/
def ofList (arms : List (Expression × List Rule)) (last : Option (List Rule)) : Arms :=
  match arms with
  | [] =>
      match last with
      | some rules => .otherwise rules
      | none => .done
  | (guard, rules) :: rest => .arm guard rules (ofList rest last)

end Arms

namespace Rule

instance : Inhabited Rule :=
  ⟨.exit .response⟩

def set (kind : AssignmentKind) (target : String) (expression : Expression) : Rule :=
  .assign ⟨kind, target, expression⟩

/-- The name of the rule's element in markup. -/
def className : Rule → String
  | .assign assignment => assignment.kind.className
  | .condition family _ => family.conditionName
  | .exit kind => kind.className
  | .constraint _ => "templateConstraint"
  | .branch .. => "branchRule"
  | .fragment family _ => family.fragmentName

end Rule

mutual

/-- The number of rules in the tree of a rule, with the rule itself. -/
def Rule.count : Rule → Nat
  | .condition _ arms => 1 + Arms.count arms
  | .fragment _ rules => 1 + Rule.countAll rules
  | .assign _ => 1
  | .exit _ => 1
  | .constraint _ => 1
  | .branch .. => 1

def Arms.count : Arms → Nat
  | .done => 0
  | .otherwise rules => Rule.countAll rules
  | .arm _ rules rest => Rule.countAll rules + Arms.count rest

/-- The number of rules in a list of trees. -/
def Rule.countAll : List Rule → Nat
  | [] => 0
  | rule :: rules => Rule.count rule + Rule.countAll rules

end

/-- A block of processing.  Rules of its own go before those of a template. -/
structure Processing where
  rules : List Rule
  template : Option String
  templateLocation : Option String

namespace Processing

/-- The number of rules written in the block itself. -/
def ruleCount (processing : Processing) : Nat :=
  Rule.countAll processing.rules

end Processing

end Assessment
