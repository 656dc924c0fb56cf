import Assessment.Document
import Assessment.Proofs.RuleMirror

/-!
# Parsed trees mirror their nodes

What is read from JSON mirrors it, at every level of nesting.  A node of an unknown kind
makes the whole reading fail, wherever it stands among the operands and rules.
-/

namespace Assessment

theorem Arms.Mirror.exists_guard {arms : Arms} {nodes : List Json} {last : Option Json}
    (mirror : arms.Mirror nodes last) {node : Json} (member : node ∈ nodes) :
    ∃ guard : Expression, guard.IsFieldOf node := by
  induction nodes generalizing arms with
  | nil => cases member
  | cons first nodes induction =>
      cases arms with
      | done | otherwise => cases mirror
      | arm guard rules rest =>
          obtain ⟨ofFirst, _, others⟩ := mirror
          rcases List.mem_cons.mp member with rfl | later
          · exact ⟨guard, ofFirst⟩
          · exact induction others later

/-- The rules with one expression of their own. -/
def Rule.HasExpression : Rule → Prop
  | .assign _ => True
  | .constraint _ => True
  | .branch .. => True
  | _ => False

namespace Json

variable {node raw : Json}

theorem mem_ruleExpressions_of_condition {family : RuleFamily}
    (named : node.kind? = some family.conditionName) (member : raw ∈ node.ruleExpressions) :
    ∃ arm ∈ node.armNodes, arm.field? "expression" = some raw := by
  have arms : node.ruleExpressions = node.armNodes.filterMap (field? · "expression") := by
    unfold ruleExpressions
    rw [named]
    cases family <;> rfl
  rw [arms] at member
  exact List.mem_filterMap.mp member

theorem ruleExpressions_of_fragment {family : RuleFamily}
    (named : node.kind? = some family.fragmentName) : node.ruleExpressions = [] := by
  unfold ruleExpressions
  rw [named]
  cases family <;> rfl

theorem ruleExpressions_of_exit {kind : ExitKind} (named : node.kind? = some kind.className) :
    node.ruleExpressions = [] := by
  unfold ruleExpressions
  rw [named]
  cases kind <;> rfl

theorem ruleExpressions_of_hasExpression {rule : Rule} (one : rule.HasExpression)
    (named : node.kind? = some rule.className) :
    node.ruleExpressions = (node.field? "expression").toList := by
  unfold ruleExpressions
  rw [named]
  cases rule with
  | condition | fragment | exit => cases one
  | assign assignment =>
      obtain ⟨kind, target, expression⟩ := assignment
      cases kind <;> rfl
  | constraint | branch => rfl

end Json

/-- All expressions of a rule are read. -/
theorem Rule.Mirrors.exists_read {rule : Rule} {node raw : Json} (mirrors : rule.Mirrors node)
    (member : raw ∈ node.ruleExpressions) :
    ∃ path expression, Expression.ofJson path raw = .ok expression := by
  have ofField : ∀ {expression : Expression} {inner : Json},
      expression.IsFieldOf inner → inner.field? "expression" = some raw →
        ∃ path expression, Expression.ofJson path raw = .ok expression := by
    rintro expression inner ⟨found, path, isField, read⟩ field
    rw [isField] at field
    cases field
    exact ⟨path, expression, read⟩
  have named := mirrors.kind
  cases rule with
  | condition family arms =>
      obtain ⟨arm, armMember, field⟩ := Json.mem_ruleExpressions_of_condition named member
      obtain ⟨guard, isField⟩ := Arms.Mirror.exists_guard mirrors.2 armMember
      exact ofField isField field
  | fragment family rules =>
      rw [Json.ruleExpressions_of_fragment named] at member
      cases member
  | exit kind =>
      rw [Json.ruleExpressions_of_exit named] at member
      cases member
  | assign | constraint | branch =>
      rw [Json.ruleExpressions_of_hasExpression (by trivial) named] at member
      exact ofField mirrors.2 (Option.mem_toList.mp member)

/-- A node that no rule is named like. -/
def Rule.Unknown (node : Json) : Prop :=
  ∀ rule : Rule, node.kind? ≠ some rule.className

/-- A rule of an unknown kind, or one with an operand of an unknown kind in one of its
expressions. -/
def Json.Strange (rule : Json) : Prop :=
  Rule.Unknown rule ∨
    ∃ operand ∈ rule.ruleExpressions.flatMap expressionNodes, Expression.Unknown operand

theorem Rule.AllMirror.not_strange {rules : List Rule} {nodes : List Json}
    (mirror : AllMirror rules nodes) {node : Json} (member : node ∈ nodes.flatMap Json.ruleNodes) :
    ¬node.Strange := by
  obtain ⟨rule, mirrors⟩ := (AccountsFor.of_allMirror rules nodes mirror).mirrored node member
  rintro (unknown | ⟨operand, below, unknown⟩)
  · exact unknown rule mirrors.kind
  · obtain ⟨raw, rawMember, inner⟩ := List.mem_flatMap.mp below
    obtain ⟨path, expression, read⟩ := mirrors.exists_read rawMember
    exact Expression.not_unknown_of_mem read inner unknown

/-- A document is not accepted with a strange rule in one of its blocks. -/
theorem Document.not_strange_of_ofJson {node block rule : Json} {document : Document}
    {field : String} (accepted : ofJson node = .ok document)
    (processed : field ∈ ["templateProcessing", "responseProcessing", "outcomeProcessing"])
    (found : node.field? field = some block)
    (member : rule ∈ (block.itemsOf "rules").flatMap Json.ruleNodes) : ¬rule.Strange := by
  have ofBlock : ∀ {family : RuleFamily} {processing : Option Processing},
      processingOfJson node field family = .ok processing → ¬rule.Strange := by
    intro family processing success
    unfold processingOfJson at success
    rw [found] at success
    obtain ⟨read, blockRead, _⟩ := map_eq_ok_iff.mp success
    unfold Processing.ofJson at blockRead
    cases rulesField : block.field? "rules" with
    | none =>
        rw [Json.itemsOf_of_none rulesField] at member
        cases member
    | some raw =>
        simp only [rulesField] at blockRead
        obtain ⟨rules, rulesRead, _⟩ := bind_eq_ok_iff.mp blockRead
        obtain ⟨nodes, rfl, mirror⟩ := Rule.mirrors_of_blockOfJson rulesRead
        rw [Json.itemsOf_of_field? rulesField] at member
        exact mirror.not_strange member
  obtain ⟨_, _, rest⟩ := bind_eq_ok_iff.mp accepted
  obtain ⟨_, _, rest⟩ := bind_eq_ok_iff.mp rest
  obtain ⟨_, templateRead, rest⟩ := bind_eq_ok_iff.mp rest
  obtain ⟨_, responseRead, rest⟩ := bind_eq_ok_iff.mp rest
  obtain ⟨_, outcomeRead, _⟩ := bind_eq_ok_iff.mp rest
  simp only [List.mem_cons, List.not_mem_nil, or_false] at processed
  rcases processed with rfl | rfl | rfl
  · exact ofBlock templateRead
  · exact ofBlock responseRead
  · exact ofBlock outcomeRead

/-- What is read mirrors its nodes: expressions with their operands, and rules with all
that is nested in them, so that there are as many rules as there are nodes of rules.  One
node of an unknown kind makes the reading fail. -/
theorem Document.readings_mirror_nodes :
    (∀ path node expression, Expression.ofJson path node = .ok expression →
      expression.Mirrors node) ∧
    (∀ family path json rules, Rule.blockOfJson family path json = .ok rules →
      ∃ nodes, json = .array nodes ∧ Rule.AllMirror rules nodes ∧
        Rule.countAll rules = (nodes.flatMap Json.ruleNodes).length) ∧
    (∀ path node, ∀ operand ∈ node.expressionNodes, Expression.Unknown operand →
      ∃ error, Expression.ofJson path node = .error error) ∧
    (∀ family path nodes, ∀ rule ∈ nodes.flatMap Json.ruleNodes, rule.Strange →
      ∃ error, Rule.blockOfJson family path (.array nodes) = .error error) ∧
    (∀ node block, ∀ field ∈ ["templateProcessing", "responseProcessing", "outcomeProcessing"],
      node.field? field = some block →
      ∀ rule ∈ (block.itemsOf "rules").flatMap Json.ruleNodes, rule.Strange →
        ∃ error, Document.ofJson node = .error error) := by
  refine ⟨fun _ _ _ => Expression.mirrors_of_ofJson, ?_, ?_, ?_, ?_⟩
  · intro family path json rules success
    obtain ⟨nodes, isArray, mirror⟩ := Rule.mirrors_of_blockOfJson success
    exact ⟨nodes, isArray, mirror, (Rule.AccountsFor.of_allMirror rules nodes mirror).count⟩
  · intro path node operand member unknown
    apply exists_error_of_not_ok
    intro expression read
    exact Expression.not_unknown_of_mem read member unknown
  · intro family path nodes rule member strange
    apply exists_error_of_not_ok
    intro rules read
    obtain ⟨_, isArray, mirror⟩ := Rule.mirrors_of_blockOfJson read
    cases isArray
    exact mirror.not_strange member strange
  · intro node block field processed found rule member strange
    apply exists_error_of_not_ok
    intro document accepted
    exact Document.not_strange_of_ofJson accepted processed found member strange

/-! A conditional of two arms, whose first guard has an operand of the given kind. -/

def guardNode (kind : String) : Json :=
  let response : Json :=
    .object [("identifier", .string "RESPONSE"), ("kind", .string "variable")]
  let inner : Json := .object [("kind", .string kind), ("operands", .array [response])]
  .object [("kind", .string "not"), ("operands", .array [inner])]

def exitNode : Json :=
  .object [("kind", .string "exitResponse")]

def nestedNode (kind : String) : Json :=
  let leaving : Json :=
    .object [("kind", .string "responseProcessingFragment"), ("rules", .array [exitNode])]
  .object
    [("elseIf", .array [.object [("expression", .object [("kind", .string "null")])]]),
      ("if", .object [("expression", guardNode kind), ("rules", .array [leaving])]),
      ("kind", .string "responseCondition")]

def nestedRule : Rule :=
  .condition .response
    (.arm (.apply .not [.apply .isNull [.valueOf "RESPONSE"]])
      [.fragment .response [.exit .response]] (.arm .null [] .done))

theorem Rule.blockOfJson_nestedNode :
    blockOfJson .response .root (.array [nestedNode "isNull"]) = .ok [nestedRule] := by
  have guardRead : ∀ path, Expression.ofJson path (guardNode "isNull") =
      .ok (.apply .not [.apply .isNull [.valueOf "RESPONSE"]]) := by
    intro path
    with_unfolding_all rfl
  have nullRead : ∀ path, Expression.ofJson path (.object [("kind", .string "null")]) =
      .ok .null := by
    intro path
    with_unfolding_all rfl
  have exitRead : ∀ path, ofJson .response path exitNode = .ok (.exit .response) := by
    intro path
    rw [ofJson]
    rfl
  simp [blockOfJson, ofItems, ofJson, conditionOfJson, firstArmOfJson, otherArmsOfJson,
    armsOfItems, armOfJson, blockOfField, Json.requireString, Json.requireField, Json.field?,
    lookupEntry, conditionFamily?, fragmentFamily?, bind, Except.bind, Except.map, pure,
    Except.pure, guardRead, nullRead, exitRead, nestedNode, nestedRule, Arms.ofList]

/-- The three rules are read, and with a misspelt operand nothing is. -/
theorem Document.readings_mirror_nodes_nested :
    Rule.AllMirror [nestedRule] [nestedNode "isNull"] ∧
      Rule.countAll [nestedRule] = ([nestedNode "isNull"].flatMap Json.ruleNodes).length ∧
      Rule.countAll [nestedRule] = 3 ∧
      ∃ error,
        Rule.blockOfJson .response .root (.array [nestedNode "isNul"]) = .error error := by
  obtain ⟨_, ofBlocks, _, strangeBlocks, _⟩ := readings_mirror_nodes
  obtain ⟨nodes, isArray, mirror, count⟩ := ofBlocks _ _ _ _ Rule.blockOfJson_nestedNode
  cases isArray
  refine ⟨mirror, count, rfl, ?_⟩
  have inside : ∃ operand ∈ (nestedNode "isNul").ruleExpressions.flatMap Json.expressionNodes,
      operand.kind? = some "isNul" := by
    with_unfolding_all decide
  obtain ⟨operand, below, misspelt⟩ := inside
  have unknown : Expression.Unknown operand := by
    intro expression
    rw [misspelt]
    cases expression with
    | apply operator =>
        cases operator with
        | compare order => cases order <;> simp [Expression.name, Operator.name, NumericOrder.name]
        | compareDurations order =>
            cases order <;> simp [Expression.name, Operator.name, DurationOrder.name]
        | _ => simp [Expression.name, Operator.name]
    | _ => simp [Expression.name]
  apply strangeBlocks .response .root _ (nestedNode "isNul") _ (.inr ⟨operand, below, unknown⟩)
  rw [List.flatMap_singleton, Json.ruleNodes_eq]
  exact List.mem_cons_self

end Assessment
