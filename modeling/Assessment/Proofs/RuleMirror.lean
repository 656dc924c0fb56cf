import Assessment.Document.Rule
import Assessment.Proofs.ExpressionMirror

/-!
# Rules mirror their nodes

A rule that is read from JSON has the kind of its node, and what is nested in it mirrors
what is nested in the node.  So there are as many rules as there are nodes of rules.
-/

namespace Assessment

/-- The expression is read from the field `expression` of the node. -/
def Expression.IsFieldOf (expression : Expression) (node : Json) : Prop :=
  ∃ raw path, node.field? "expression" = some raw ∧ ofJson path raw = .ok expression

mutual

/-- The rule has the kind of the node; its arms or rules mirror those of the node, and its
expression is read from it. -/
def Rule.Mirrors (rule : Rule) (node : Json) : Prop :=
  node.kind? = some rule.className ∧
    match rule with
    | .condition _ arms => Arms.Mirror arms node.armNodes (node.field? "else")
    | .fragment _ rules => Rule.AllMirror rules (node.itemsOf "rules")
    | .assign assignment => assignment.expression.IsFieldOf node
    | .constraint condition => condition.IsFieldOf node
    | .branch _ guard => guard.IsFieldOf node
    | .exit _ => True

/-- The guarded arms mirror the nodes one to one and in order, and the `else` part
mirrors the last node. -/
def Arms.Mirror : Arms → List Json → Option Json → Prop
  | .arm guard rules rest, node :: nodes, last =>
      guard.IsFieldOf node ∧ Rule.AllMirror rules (node.itemsOf "rules") ∧
        Arms.Mirror rest nodes last
  | .otherwise rules, [], some (.array items) => Rule.AllMirror rules items
  | .done, [], none => True
  | _, _, _ => False

def Rule.AllMirror : List Rule → List Json → Prop
  | [], [] => True
  | rule :: rules, node :: nodes => Rule.Mirrors rule node ∧ Rule.AllMirror rules nodes
  | _, _ => False

end

namespace Rule

theorem Mirrors.kind {rule : Rule} {node : Json} (mirrors : rule.Mirrors node) :
    node.kind? = some rule.className := by
  unfold Mirrors at mirrors
  exact mirrors.1

/-! The kinds that are read are the names of the rules. -/

theorem assignmentKind?_eq_some_iff {kind : String} {assignment : AssignmentKind} :
    assignmentKind? kind = some assignment ↔ assignment.className = kind := by
  constructor
  · intro found
    unfold assignmentKind? at found
    split at found <;> cases found <;> rfl
  · rintro rfl
    cases assignment <;> rfl

theorem conditionFamily?_eq_some_iff {kind : String} {family : RuleFamily} :
    conditionFamily? kind = some family ↔ family.conditionName = kind := by
  constructor
  · intro found
    unfold conditionFamily? at found
    split at found <;> cases found <;> rfl
  · rintro rfl
    cases family <;> rfl

/-- A fragment is never read as one of template processing. -/
theorem fragmentFamily?_eq_some_iff {kind : String} {family : RuleFamily} :
    fragmentFamily? kind = some family ↔ family.fragmentName = kind ∧ family ≠ .template := by
  constructor
  · intro found
    unfold fragmentFamily? at found
    split at found <;> cases found <;> exact ⟨rfl, nofun⟩
  · rintro ⟨rfl, notTemplate⟩
    cases family with
    | template => exact absurd rfl notTemplate
    | response | outcome => rfl

theorem isFieldOf_of_expressionOfJson {path : Path} {node : Json} {expression : Expression}
    (success : expressionOfJson path node = .ok expression) : expression.IsFieldOf node := by
  obtain ⟨raw, found, read⟩ := bind_eq_ok_iff.mp success
  exact ⟨raw, _, Json.requireField_eq_ok found, read⟩

theorem mirrors_of_simpleOfJson {family : RuleFamily} {path : Path} {node : Json}
    {kind : String} {rule : Rule} (named : node.kind? = some kind)
    (success : simpleOfJson family path node kind = .ok rule) : rule.Mirrors node := by
  unfold simpleOfJson at success
  split at success
  next assignment found =>
    obtain ⟨target, _, rest⟩ := bind_eq_ok_iff.mp success
    obtain ⟨expression, read, together⟩ := bind_eq_ok_iff.mp rest
    cases together
    rw [← assignmentKind?_eq_some_iff.mp found] at named
    exact ⟨named, isFieldOf_of_expressionOfJson read⟩
  next =>
    split at success
    case h_4 =>
      obtain ⟨condition, read, rfl⟩ := map_eq_ok_iff.mp success
      exact ⟨named, isFieldOf_of_expressionOfJson read⟩
    case h_5 =>
      obtain ⟨target, _, rest⟩ := bind_eq_ok_iff.mp success
      obtain ⟨guard, read, together⟩ := bind_eq_ok_iff.mp rest
      cases together
      exact ⟨named, isFieldOf_of_expressionOfJson read⟩
    case h_6 => cases success
    -- exits have no parts
    all_goals
      cases success
      exact ⟨named, trivial⟩

/-- An arm has the expression and the rules of its node. -/
def ArmMirrors (arm : Expression × List Rule) (node : Json) : Prop :=
  arm.1.IsFieldOf node ∧ AllMirror arm.2 (node.itemsOf "rules")

/-- A block mirrors the array that it is read from; it is absent if the array is. -/
def BlockMirrors : Option (List Rule) → Option Json → Prop
  | none, none => True
  | some rules, some (.array items) => AllMirror rules items
  | _, _ => False

theorem BlockMirrors.items {node : Json} {field : String} {block : Option (List Rule)}
    (mirrors : BlockMirrors block (node.field? field)) :
    AllMirror (block.getD []) (node.itemsOf field) := by
  unfold Json.itemsOf
  revert mirrors
  generalize node.field? field = found
  intro mirrors
  unfold BlockMirrors at mirrors
  split at mirrors
  next => trivial
  next => exact mirrors
  next => cases mirrors

theorem arms_mirror_of_parts {arms : List (Expression × List Rule)} {nodes : List Json}
    {block : Option (List Rule)} {last : Option Json} (mirrors : List.Forall₂ ArmMirrors arms nodes)
    (lastMirrors : BlockMirrors block last) : (Arms.ofList arms block).Mirror nodes last := by
  induction mirrors with
  | nil =>
      unfold BlockMirrors at lastMirrors
      split at lastMirrors
      next => trivial
      next => exact lastMirrors
      next => cases lastMirrors
  | cons first _ induction => exact ⟨first.1, first.2, induction⟩

mutual

theorem mirrors_of_ofJson {family : RuleFamily} {path : Path} {node : Json} {rule : Rule}
    (success : ofJson family path node = .ok rule) : rule.Mirrors node := by
  rw [ofJson] at success
  obtain ⟨kind, kindRead, rest⟩ := bind_eq_ok_iff.mp success
  have named := Json.kind?_of_requireString kindRead
  split at rest
  next inner found =>
    obtain ⟨arms, rfl, mirror⟩ := arms_of_conditionOfJson rest
    rw [← conditionFamily?_eq_some_iff.mp found] at named
    exact ⟨named, mirror⟩
  next inner _ found =>
    obtain ⟨rules, read, together⟩ := bind_eq_ok_iff.mp rest
    cases together
    rw [← (fragmentFamily?_eq_some_iff.mp found).1] at named
    exact ⟨named, (mirrors_of_blockOfField read).items⟩
  next => exact mirrors_of_simpleOfJson named rest
  termination_by (sizeOf node, 2)

theorem arms_of_conditionOfJson {family : RuleFamily} {path : Path} {node : Json} {rule : Rule}
    (success : conditionOfJson family path node = .ok rule) :
    ∃ arms, rule = .condition family arms ∧ arms.Mirror node.armNodes (node.field? "else") := by
  rw [conditionOfJson] at success
  obtain ⟨first, firstRead, rest⟩ := bind_eq_ok_iff.mp success
  obtain ⟨others, othersRead, rest⟩ := bind_eq_ok_iff.mp rest
  obtain ⟨last, lastRead, together⟩ := bind_eq_ok_iff.mp rest
  cases together
  obtain ⟨firstNode, found, firstMirrors⟩ := mirrors_of_firstArmOfJson firstRead
  refine ⟨_, rfl, arms_mirror_of_parts ?_ (mirrors_of_blockOfField lastRead)⟩
  rw [Json.armNodes, found]
  exact .cons firstMirrors (mirrors_of_otherArmsOfJson othersRead)
  termination_by (sizeOf node, 1)

theorem mirrors_of_firstArmOfJson {family : RuleFamily} {path : Path} {node : Json}
    {arm : Expression × List Rule} (success : firstArmOfJson family path node = .ok arm) :
    ∃ first, node.field? "if" = some first ∧ ArmMirrors arm first := by
  rw [firstArmOfJson] at success
  split at success
  next => cases success
  next raw found =>
    have smaller := Json.sizeOf_field?_lt found
    exact ⟨raw, found, mirrors_of_armOfJson success⟩
  termination_by (sizeOf node, 0)

theorem mirrors_of_otherArmsOfJson {family : RuleFamily} {path : Path} {node : Json}
    {arms : List (Expression × List Rule)}
    (success : otherArmsOfJson family path node = .ok arms) :
    List.Forall₂ ArmMirrors arms (node.itemsOf "elseIf") := by
  rw [otherArmsOfJson] at success
  split at success
  next absent =>
    cases success
    rw [Json.itemsOf_of_none absent]
    exact .nil
  next items found =>
    have smaller := Json.sizeOf_items_lt found
    rw [Json.itemsOf_of_field? found]
    exact mirrors_of_armsOfItems success
  next => cases success
  termination_by (sizeOf node, 0)

theorem mirrors_of_armsOfItems {family : RuleFamily} {path : Path} {position : Nat}
    {items : List Json} {arms : List (Expression × List Rule)}
    (success : armsOfItems family path position items = .ok arms) :
    List.Forall₂ ArmMirrors arms items := by
  cases items with
  | nil =>
      rw [armsOfItems] at success
      cases success
      exact .nil
  | cons item items =>
      rw [armsOfItems] at success
      obtain ⟨arm, first, rest⟩ := bind_eq_ok_iff.mp success
      obtain ⟨arms, others, together⟩ := bind_eq_ok_iff.mp rest
      cases together
      exact .cons (mirrors_of_armOfJson first) (mirrors_of_armsOfItems others)
  termination_by (sizeOf items, 2)

theorem mirrors_of_armOfJson {family : RuleFamily} {path : Path} {node : Json}
    {arm : Expression × List Rule} (success : armOfJson family path node = .ok arm) :
    ArmMirrors arm node := by
  rw [armOfJson] at success
  obtain ⟨raw, found, rest⟩ := bind_eq_ok_iff.mp success
  obtain ⟨rules, rulesRead, rest⟩ := bind_eq_ok_iff.mp rest
  obtain ⟨guard, guardRead, together⟩ := bind_eq_ok_iff.mp rest
  cases together
  exact ⟨⟨raw, _, Json.requireField_eq_ok found, guardRead⟩,
    (mirrors_of_blockOfField rulesRead).items⟩
  termination_by (sizeOf node, 1)

theorem mirrors_of_blockOfField {family : RuleFamily} {path : Path} {node : Json}
    {field : String} {block : Option (List Rule)}
    (success : blockOfField family path node field = .ok block) :
    BlockMirrors block (node.field? field) := by
  rw [blockOfField] at success
  split at success
  next absent =>
    cases success
    rw [absent]
    trivial
  next raw found =>
    have smaller := Json.sizeOf_field?_lt found
    obtain ⟨rules, read, rfl⟩ := map_eq_ok_iff.mp success
    obtain ⟨items, rfl, mirror⟩ := mirrors_of_blockOfJson read
    rw [found]
    exact mirror
  termination_by (sizeOf node, 0)

theorem mirrors_of_blockOfJson {family : RuleFamily} {path : Path} {json : Json}
    {rules : List Rule} (success : blockOfJson family path json = .ok rules) :
    ∃ items, json = .array items ∧ AllMirror rules items := by
  cases json with
  | array items =>
      rw [blockOfJson] at success
      exact ⟨items, rfl, allMirror_of_ofItems success⟩
  | _ =>
      rw [blockOfJson] at success
      · cases success
      · nofun
  termination_by (sizeOf json, 0)

theorem allMirror_of_ofItems {family : RuleFamily} {path : Path} {position : Nat}
    {items : List Json} {rules : List Rule}
    (success : ofItems family path position items = .ok rules) : AllMirror rules items := by
  cases items with
  | nil =>
      rw [ofItems] at success
      cases success
      trivial
  | cons item items =>
      rw [ofItems] at success
      obtain ⟨rule, first, rest⟩ := bind_eq_ok_iff.mp success
      obtain ⟨rules, others, together⟩ := bind_eq_ok_iff.mp rest
      cases together
      exact ⟨mirrors_of_ofJson first, allMirror_of_ofItems others⟩
  termination_by (sizeOf items, 2)

end

end Rule

/-! ## Nothing is lost -/

section Kinds

variable {node : Json} {family : RuleFamily}

theorem Json.innerRules_of_condition (named : node.kind? = some family.conditionName) :
    node.innerRules = node.armNodes.flatMap (itemsOf · "rules") ++ node.itemsOf "else" := by
  unfold innerRules
  rw [named]
  cases family <;> rfl

theorem Json.innerRules_of_fragment (named : node.kind? = some family.fragmentName) :
    node.innerRules = node.itemsOf "rules" := by
  unfold innerRules
  rw [named]
  cases family <;> rfl

/-- The rules that contain no rules. -/
def Rule.IsSimple : Rule → Prop
  | .condition .. => False
  | .fragment .. => False
  | _ => True

theorem Json.innerRules_of_simple {rule : Rule} (simple : rule.IsSimple)
    (named : node.kind? = some rule.className) : node.innerRules = [] := by
  unfold innerRules
  rw [named]
  cases rule with
  | condition | fragment => cases simple
  | assign assignment =>
      obtain ⟨kind, target, expression⟩ := assignment
      cases kind <;> rfl
  | exit kind => cases kind <;> rfl
  | constraint | branch => rfl

end Kinds

/-- The nodes are so many, and each of them is mirrored by a rule. -/
structure Rule.AccountsFor (count : Nat) (nodes : List Json) : Prop where
  count : count = nodes.length
  mirrored : ∀ node ∈ nodes, ∃ rule : Rule, rule.Mirrors node

namespace Rule.AccountsFor

variable {count more : Nat} {node : Json} {nodes others : List Json}

theorem nil : AccountsFor 0 [] :=
  ⟨rfl, nofun⟩

theorem append (accounts : AccountsFor count nodes) (moreAccounts : AccountsFor more others) :
    AccountsFor (count + more) (nodes ++ others) := by
  constructor
  · rw [List.length_append, accounts.count, moreAccounts.count]
  · intro node member
    rcases List.mem_append.mp member with first | second
    · exact accounts.mirrored node first
    · exact moreAccounts.mirrored node second

theorem cons {rule : Rule} (mirrors : rule.Mirrors node) (accounts : AccountsFor count nodes) :
    AccountsFor (1 + count) (node :: nodes) := by
  constructor
  · rw [List.length_cons, accounts.count, Nat.add_comm]
  · intro inner member
    rcases List.mem_cons.mp member with rfl | below
    · exact ⟨rule, mirrors⟩
    · exact accounts.mirrored inner below

theorem single {rule : Rule} (simple : rule.IsSimple) (mirrors : rule.Mirrors node) :
    AccountsFor 1 node.ruleNodes := by
  rw [Json.ruleNodes_eq, Json.innerRules_of_simple simple mirrors.kind]
  exact cons mirrors nil

mutual

theorem of_mirrors (rule : Rule) (node : Json) (mirrors : rule.Mirrors node) :
    AccountsFor rule.count node.ruleNodes := by
  cases rule with
  | condition family arms =>
      rw [Json.ruleNodes_eq, Json.innerRules_of_condition mirrors.kind, Rule.count]
      exact cons mirrors (of_arms_mirror arms _ _ mirrors.2)
  | fragment family rules =>
      rw [Json.ruleNodes_eq, Json.innerRules_of_fragment mirrors.kind, Rule.count]
      exact cons mirrors (of_allMirror rules _ mirrors.2)
  | assign | exit | constraint | branch =>
      rw [Rule.count]
      exact single (by trivial) mirrors

theorem of_arms_mirror (arms : Arms) (nodes : List Json) (last : Option Json)
    (mirror : arms.Mirror nodes last) :
    AccountsFor arms.count
      ((nodes.flatMap (Json.itemsOf · "rules") ++ last.elim [] Json.items).flatMap
        Json.ruleNodes) := by
  cases arms with
  | done =>
      cases nodes with
      | nil =>
          cases last with
          | none => exact nil
          | some => cases mirror
      | cons => cases mirror
  | otherwise rules =>
      cases nodes with
      | nil =>
          match last, mirror with
          | some (.array items), mirror => exact of_allMirror rules items mirror
      | cons => cases mirror
  | arm guard rules rest =>
      cases nodes with
      | nil => cases mirror
      | cons node nodes =>
          obtain ⟨_, inner, others⟩ := mirror
          rw [Arms.count, List.flatMap_cons, List.append_assoc, List.flatMap_append]
          exact append (of_allMirror rules _ inner) (of_arms_mirror rest nodes last others)

theorem of_allMirror (rules : List Rule) (nodes : List Json) (mirror : AllMirror rules nodes) :
    AccountsFor (countAll rules) (nodes.flatMap Json.ruleNodes) := by
  cases rules with
  | nil =>
      cases nodes with
      | nil => exact nil
      | cons => cases mirror
  | cons rule rules =>
      cases nodes with
      | nil => cases mirror
      | cons node nodes =>
          rw [countAll, List.flatMap_cons]
          exact append (of_mirrors rule node mirror.1) (of_allMirror rules nodes mirror.2)

end

end Rule.AccountsFor

end Assessment
