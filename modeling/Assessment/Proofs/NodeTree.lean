import Assessment.Document.Field

/-!
# Trees of nodes

A JSON value is the root of a tree of expressions, in which the operands of a node stand
below it, and of a tree of rules, in which the rules of fragments and of the arms of
conditionals stand below them.  Both are seen here without reading the nodes, which only
have a kind, fields and items.
-/

namespace Assessment.Json

variable {node item : Json} {field : String}

/-- The kind that a node names. -/
def kind? (node : Json) : Option String :=
  match node.field? "kind" with
  | some (.string kind) => some kind
  | _ => none

/-- The items of an array; other values have none. -/
def items : Json → List Json
  | .array items => items
  | _ => []

def itemsOf (node : Json) (field : String) : List Json :=
  (node.field? field).elim [] items

theorem itemsOf_of_field? {inner : List Json} (found : node.field? field = some (.array inner)) :
    node.itemsOf field = inner := by
  rw [itemsOf, found]
  rfl

theorem itemsOf_of_none (absent : node.field? field = none) : node.itemsOf field = [] := by
  rw [itemsOf, absent]
  rfl

theorem sizeOf_lt_of_mem_items (member : item ∈ node.items) : sizeOf item < sizeOf node := by
  cases node with
  | array items =>
      have smaller := List.sizeOf_lt_of_mem (show item ∈ items from member)
      simp only [array.sizeOf_spec]
      omega
  | _ => cases member

theorem sizeOf_lt_of_mem_itemsOf (member : item ∈ node.itemsOf field) :
    sizeOf item < sizeOf node := by
  unfold itemsOf at member
  cases found : node.field? field with
  | none =>
      rw [found] at member
      cases member
  | some value =>
      rw [found] at member
      exact Nat.lt_trans (sizeOf_lt_of_mem_items member) (sizeOf_field?_lt found)

/-! ## Expressions -/

/-- The node itself and all operands below it. -/
def expressionNodes (node : Json) : List Json :=
  node :: (node.itemsOf "operands").attach.flatMap fun operand => expressionNodes operand.1
  termination_by sizeOf node
  decreasing_by exact sizeOf_lt_of_mem_itemsOf operand.2

theorem expressionNodes_eq (node : Json) :
    node.expressionNodes = node :: (node.itemsOf "operands").flatMap expressionNodes := by
  rw [expressionNodes]
  simp

/-! ## Rules -/

/-- The arms of a conditional: the one of `if` and then those of `elseIf`. -/
def armNodes (node : Json) : List Json :=
  (node.field? "if").toList ++ node.itemsOf "elseIf"

def fragmentKinds : List String :=
  ["responseProcessingFragment", "outcomeProcessingFragment"]

def conditionKinds : List String :=
  ["responseCondition", "outcomeCondition", "templateCondition"]

def exitKinds : List String :=
  ["exitResponse", "exitTemplate", "exitTest"]

/-- The rules right below a rule. -/
def innerRules (node : Json) : List Json :=
  if ∃ kind ∈ fragmentKinds, node.kind? = some kind then node.itemsOf "rules"
  else if ∃ kind ∈ conditionKinds, node.kind? = some kind then
    node.armNodes.flatMap (itemsOf · "rules") ++ node.itemsOf "else"
  else []

/-- The expressions that belong to a rule itself. -/
def ruleExpressions (node : Json) : List Json :=
  if ∃ kind ∈ fragmentKinds ++ exitKinds, node.kind? = some kind then []
  else if ∃ kind ∈ conditionKinds, node.kind? = some kind then
    node.armNodes.filterMap (field? · "expression")
  else (node.field? "expression").toList

theorem sizeOf_lt_of_mem_armNodes (member : item ∈ node.armNodes) :
    sizeOf item < sizeOf node := by
  rcases List.mem_append.mp member with first | other
  · exact sizeOf_field?_lt (Option.mem_toList.mp first)
  · exact sizeOf_lt_of_mem_itemsOf other

theorem sizeOf_lt_of_mem_innerRules (member : item ∈ node.innerRules) :
    sizeOf item < sizeOf node := by
  unfold innerRules at member
  split at member
  · exact sizeOf_lt_of_mem_itemsOf member
  · split at member
    · rcases List.mem_append.mp member with inArm | inElse
      · obtain ⟨arm, armMember, inner⟩ := List.mem_flatMap.mp inArm
        exact Nat.lt_trans (sizeOf_lt_of_mem_itemsOf inner) (sizeOf_lt_of_mem_armNodes armMember)
      · exact sizeOf_lt_of_mem_itemsOf inElse
    · cases member

/-- The node itself and all rules below it. -/
def ruleNodes (node : Json) : List Json :=
  node :: node.innerRules.attach.flatMap fun rule => ruleNodes rule.1
  termination_by sizeOf node
  decreasing_by exact sizeOf_lt_of_mem_innerRules rule.2

theorem ruleNodes_eq (node : Json) :
    node.ruleNodes = node :: node.innerRules.flatMap ruleNodes := by
  rw [ruleNodes]
  simp

/-! ## Fields that are required -/

theorem requireString_eq_ok {path : Path} {node : Json} {field text : String}
    (success : node.requireString path field = .ok text) :
    node.field? field = some (.string text) := by
  unfold requireString at success
  split at success
  next found =>
    cases success
    exact found
  next => cases success
  next => cases success

theorem requireField_eq_ok {path : Path} {node raw : Json} {field : String}
    (success : node.requireField path field = .ok raw) : node.field? field = some raw := by
  unfold requireField at success
  split at success
  next found =>
    cases success
    exact found
  next => cases success

theorem kind?_of_requireString {path : Path} {node : Json} {kind : String}
    (success : node.requireString path "kind" = .ok kind) : node.kind? = some kind := by
  rw [kind?, requireString_eq_ok success]

end Assessment.Json
