import Assessment.Rule

/-!
# The parts of rule trees

A rule tree does its work in two kinds of places: assignments, which write, and
conditions, which decide what is executed next.  Both are listed here in the order of
the tree, and with them the variables that the tree names.
-/

namespace Assessment

mutual

/-- The assignments in the tree of a rule. -/
def Rule.assignments : Rule → List Assignment
  | .assign assignment => [assignment]
  | .condition _ arms => Arms.assignments arms
  | .fragment _ rules => Rule.assignmentsOfAll rules
  | .exit _ => []
  | .constraint _ => []
  | .branch .. => []

def Arms.assignments : Arms → List Assignment
  | .done => []
  | .otherwise rules => Rule.assignmentsOfAll rules
  | .arm _ rules rest => Rule.assignmentsOfAll rules ++ Arms.assignments rest

/-- The assignments in a list of trees. -/
def Rule.assignmentsOfAll : List Rule → List Assignment
  | [] => []
  | rule :: rules => Rule.assignments rule ++ Rule.assignmentsOfAll rules

end

mutual

/-- The guards and constraints in the tree of a rule. -/
def Rule.conditions : Rule → List Expression
  | .condition _ arms => Arms.conditions arms
  | .fragment _ rules => Rule.conditionsOfAll rules
  | .constraint condition => [condition]
  | .branch _ guard => [guard]
  | .assign _ => []
  | .exit _ => []

def Arms.conditions : Arms → List Expression
  | .done => []
  | .otherwise rules => Rule.conditionsOfAll rules
  | .arm guard rules rest => guard :: (Rule.conditionsOfAll rules ++ Arms.conditions rest)

/-- The guards and constraints in a list of trees. -/
def Rule.conditionsOfAll : List Rule → List Expression
  | [] => []
  | rule :: rules => Rule.conditions rule ++ Rule.conditionsOfAll rules

end

mutual

/-- The rules in the tree of a rule in the order of the document, itself first. -/
def Rule.preorder : Rule → List Rule
  | .assign assignment => [.assign assignment]
  | .condition family arms => .condition family arms :: Arms.preorder arms
  | .exit kind => [.exit kind]
  | .constraint condition => [.constraint condition]
  | .branch target guard => [.branch target guard]
  | .fragment family rules => .fragment family rules :: Rule.preorderOfAll rules

def Arms.preorder : Arms → List Rule
  | .done => []
  | .otherwise rules => Rule.preorderOfAll rules
  | .arm _ rules rest => Rule.preorderOfAll rules ++ Arms.preorder rest

/-- The rules in a list of trees in the order of the document. -/
def Rule.preorderOfAll : List Rule → List Rule
  | [] => []
  | rule :: rules => Rule.preorder rule ++ Rule.preorderOfAll rules

end

/-- The assignment that a rule is, if it is one. -/
def Rule.assignment? : Rule → Option Assignment
  | .assign assignment => some assignment
  | .condition .. => none
  | .exit _ => none
  | .constraint _ => none
  | .branch .. => none
  | .fragment .. => none

mutual

theorem Rule.length_preorder (rule : Rule) : rule.preorder.length = rule.count := by
  cases rule with
  | condition family arms =>
      simp [Rule.preorder, Rule.count, Arms.length_preorder arms, Nat.add_comm]
  | fragment family rules =>
      simp [Rule.preorder, Rule.count, Rule.length_preorderOfAll rules, Nat.add_comm]
  | assign | exit | constraint | branch => rfl

theorem Arms.length_preorder (arms : Arms) : arms.preorder.length = arms.count := by
  cases arms with
  | done => rfl
  | otherwise rules => exact Rule.length_preorderOfAll rules
  | arm guard rules rest =>
      simp [Arms.preorder, Arms.count, Rule.length_preorderOfAll rules,
        Arms.length_preorder rest]

theorem Rule.length_preorderOfAll (rules : List Rule) :
    (Rule.preorderOfAll rules).length = Rule.countAll rules := by
  cases rules with
  | nil => rfl
  | cons rule rules =>
      simp [Rule.preorderOfAll, Rule.countAll, rule.length_preorder,
        Rule.length_preorderOfAll rules]

end

mutual

theorem Rule.filterMap_preorder (rule : Rule) :
    rule.preorder.filterMap Rule.assignment? = rule.assignments := by
  cases rule with
  | condition family arms =>
      rw [Rule.preorder, List.filterMap_cons_none rfl]
      exact Arms.filterMap_preorder arms
  | fragment family rules =>
      rw [Rule.preorder, List.filterMap_cons_none rfl]
      exact Rule.filterMap_preorderOfAll rules
  | assign | exit | constraint | branch => rfl

theorem Arms.filterMap_preorder (arms : Arms) :
    arms.preorder.filterMap Rule.assignment? = arms.assignments := by
  cases arms with
  | done => rfl
  | otherwise rules => exact Rule.filterMap_preorderOfAll rules
  | arm guard rules rest =>
      simp [Arms.preorder, Arms.assignments, Rule.filterMap_preorderOfAll rules,
        Arms.filterMap_preorder rest]

/-- The assignments of trees are those among their rules. -/
theorem Rule.filterMap_preorderOfAll (rules : List Rule) :
    (Rule.preorderOfAll rules).filterMap Rule.assignment? = Rule.assignmentsOfAll rules := by
  cases rules with
  | nil => rfl
  | cons rule rules =>
      simp [Rule.preorderOfAll, Rule.assignmentsOfAll, rule.filterMap_preorder,
        Rule.filterMap_preorderOfAll rules]

end

/-- None of the expressions in a list of trees may draw from the random source. -/
structure Rule.RandomFree (rules : List Rule) : Prop where
  conditions : ∀ condition ∈ Rule.conditionsOfAll rules, condition.isRandom = false
  assignments : ∀ assignment ∈ Rule.assignmentsOfAll rules,
    assignment.expression.isRandom = false

instance (rules : List Rule) : Decidable (Rule.RandomFree rules) :=
  decidable_of_iff
    ((∀ condition ∈ Rule.conditionsOfAll rules, condition.isRandom = false) ∧
      ∀ assignment ∈ Rule.assignmentsOfAll rules, assignment.expression.isRandom = false)
    ⟨fun free => ⟨free.1, free.2⟩, fun free => ⟨free.conditions, free.assignments⟩⟩

/-- The variables that an assignment names: its target, and those of its expression. -/
def Assignment.references (assignment : Assignment) : List String :=
  assignment.target :: assignment.expression.references

namespace Rule

/-- The variables that a rule names, as targets or in expressions. -/
def references (rule : Rule) : List String :=
  rule.assignments.flatMap Assignment.references ++
    rule.conditions.flatMap Expression.references

variable {rule : Rule}

theorem references_of_condition {condition : Expression} (member : condition ∈ rule.conditions) :
    condition.references ⊆ rule.references := by
  intro name occurs
  exact List.mem_append_right _ (List.mem_flatMap.mpr ⟨condition, member, occurs⟩)

theorem references_of_assignment {assignment : Assignment}
    (member : assignment ∈ rule.assignments) : assignment.references ⊆ rule.references := by
  intro name occurs
  exact List.mem_append_left _ (List.mem_flatMap.mpr ⟨assignment, member, occurs⟩)

theorem target_mem_references {assignment : Assignment}
    (member : assignment ∈ rule.assignments) : assignment.target ∈ rule.references :=
  references_of_assignment member List.mem_cons_self

end Rule

end Assessment
