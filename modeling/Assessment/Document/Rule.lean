import Assessment.Document.Expression
import Assessment.Rule

/-!
# Rules in documents

A rule is an object whose field `kind` names its element.  Conditionals have the
fields `if`, `elseIf` and `else`, and every block of rules is an array.
-/

namespace Assessment

namespace Rule

/-- The assignment that a kind stands for. -/
def assignmentKind? : String → Option AssignmentKind
  | "setOutcomeValue" => some .outcomeValue
  | "setTemplateValue" => some .templateValue
  | "setCorrectResponse" => some .correctResponse
  | "setDefaultValue" => some .defaultValue
  | "lookupOutcomeValue" => some .outcomeLookup
  | _ => none

/-- The family of the conditionals of a kind. -/
def conditionFamily? : String → Option RuleFamily
  | "responseCondition" => some .response
  | "outcomeCondition" => some .outcome
  | "templateCondition" => some .template
  | _ => none

/-- The family of the fragments of a kind. -/
def fragmentFamily? : String → Option RuleFamily
  | "responseProcessingFragment" => some .response
  | "outcomeProcessingFragment" => some .outcome
  | _ => none

def expressionOfJson (path : Path) (node : Json) : Reading Expression := do
  let raw ← node.requireField path "expression"
  Expression.ofJson (path.child "expression") raw

/-- The rule of a kind that contains no rules; `family` only names the vocabulary in
which an unknown kind was looked for. -/
def simpleOfJson (family : RuleFamily) (path : Path) (node : Json) (kind : String) :
    Reading Rule :=
  match assignmentKind? kind with
  | some assignment => do
      let target ← node.requireString path "identifier"
      let expression ← expressionOfJson path node
      return set assignment target expression
  | none =>
      match kind with
      | "exitResponse" => .ok (.exit .response)
      | "exitTemplate" => .ok (.exit .template)
      | "exitTest" => .ok (.exit .test)
      | "templateConstraint" => (expressionOfJson path node).map .constraint
      | "branchRule" => do
          let target ← node.requireString path "target"
          let guard ← expressionOfJson path node
          return .branch target guard
      | kind => .error (.unknownKind path (family.name ++ " rule") kind)

mutual

/-- Reads a rule with everything inside of it. -/
def ofJson (family : RuleFamily) (path : Path) (node : Json) : Reading Rule := do
  let kind ← node.requireString path "kind"
  match conditionFamily? kind, fragmentFamily? kind with
  | some inner, _ => conditionOfJson inner path node
  | none, some inner => do
      let rules ← blockOfField inner path node "rules"
      return .fragment inner (rules.getD [])
  | none, none => simpleOfJson family path node kind
  termination_by (sizeOf node, 2)

/-- Reads the arms of a conditional in the order of their fields. -/
def conditionOfJson (family : RuleFamily) (path : Path) (node : Json) : Reading Rule := do
  let first ← firstArmOfJson family path node
  let others ← otherArmsOfJson family path node
  let last ← blockOfField family path node "else"
  return .condition family (Arms.ofList (first :: others) last)
  termination_by (sizeOf node, 1)

def firstArmOfJson (family : RuleFamily) (path : Path) (node : Json) :
    Reading (Expression × List Rule) :=
  match found : node.field? "if" with
  | none => Reading.missing path "if"
  | some raw =>
      have := Json.sizeOf_field?_lt found
      armOfJson family (path.child "if") raw
  termination_by (sizeOf node, 0)

def otherArmsOfJson (family : RuleFamily) (path : Path) (node : Json) :
    Reading (List (Expression × List Rule)) :=
  match found : node.field? "elseIf" with
  | none => .ok []
  | some (.array items) =>
      have := Json.sizeOf_items_lt found
      armsOfItems family (path.child "elseIf") 0 items
  | some _ => Reading.invalid (path.child "elseIf") .expectedArray
  termination_by (sizeOf node, 0)

def armsOfItems (family : RuleFamily) (path : Path) (position : Nat)
    (items : List Json) : Reading (List (Expression × List Rule)) :=
  match items with
  | [] => .ok []
  | item :: rest => do
      let arm ← armOfJson family (path.item position) item
      let arms ← armsOfItems family path (position + 1) rest
      return arm :: arms
  termination_by (sizeOf items, 2)

/-- Reads an arm: the guard in `expression` and the block in `rules`, which may be
absent.  The block is read before the guard. -/
def armOfJson (family : RuleFamily) (path : Path) (node : Json) :
    Reading (Expression × List Rule) := do
  let raw ← node.requireField path "expression"
  let rules ← blockOfField family path node "rules"
  let guard ← Expression.ofJson (path.child "expression") raw
  return (guard, rules.getD [])
  termination_by (sizeOf node, 1)

/-- Reads a block of rules that may be absent. -/
def blockOfField (family : RuleFamily) (path : Path) (node : Json) (field : String) :
    Reading (Option (List Rule)) :=
  match found : node.field? field with
  | none => .ok none
  | some raw =>
      have := Json.sizeOf_field?_lt found
      (blockOfJson family (path.child field) raw).map some
  termination_by (sizeOf node, 0)

/-- Reads an array of rules. -/
def blockOfJson (family : RuleFamily) (path : Path) (json : Json) :
    Reading (List Rule) :=
  match json with
  | .array items => ofItems family path 0 items
  | _ => Reading.invalid path .expectedArray
  termination_by (sizeOf json, 0)

def ofItems (family : RuleFamily) (path : Path) (position : Nat) (items : List Json) :
    Reading (List Rule) :=
  match items with
  | [] => .ok []
  | item :: rest => do
      let rule ← ofJson family (path.item position) item
      let rules ← ofItems family path (position + 1) rest
      return rule :: rules
  termination_by (sizeOf items, 2)

end

/-- Reads a template: an object whose field `rules` is an array of rules. -/
def templateOfJson (family : RuleFamily) (json : Json) : Reading (List Rule) := do
  let raw ← json.requireField Path.root "rules"
  blockOfJson family [.key "rules"] raw

end Rule

namespace Processing

def ofJson (family : RuleFamily) (path : Path) (node : Json) : Reading Processing := do
  let rules ← match node.field? "rules" with
    | none => pure []
    | some raw => Rule.blockOfJson family (path.child "rules") raw
  let template ← node.optionalString path "template"
  let templateLocation ← node.optionalString path "templateLocation"
  return ⟨rules, template, templateLocation⟩

end Processing

end Assessment
