import Assessment.Document.Rule
import Assessment.Proofs.DeclarationErrors

/-!
# Errors in processing

The readers of expressions and rules err within the node that they read, as deep as it
may be nested.
-/

namespace Assessment

open Reading (ErrsWithin)

variable (path : Path) (node : Json)

/-! ## Operators -/

namespace Equality

theorem errsWithin_toleranceOfText (text : String) :
    ErrsWithin path node (toleranceOfText path text) := by
  unfold toleranceOfText
  split
  next => exact .ok _
  next => exact .invalid _

theorem errsWithin_toleranceOfJson (json : Json) :
    ErrsWithin path node (toleranceOfJson path json) := by
  unfold toleranceOfJson
  split
  next => exact errsWithin_toleranceOfText path node _
  next =>
    split
    next => exact .ok _
    next => exact .invalid _

theorem errsWithin_tolerancesOfJson : ErrsWithin path node (tolerancesOfJson path node) := by
  unfold tolerancesOfJson
  dsimp only
  split
  next => exact .ok _
  next => exact .ok _
  next items found =>
    exact .ofField found (.mapM fun item => errsWithin_toleranceOfJson _ _ item)
  next found => exact .ofField found (.mapM fun word => errsWithin_toleranceOfText _ _ _)
  next found => exact .ofField found (.map _ (errsWithin_toleranceOfJson _ _ _))

theorem errsWithin_ofJson : ErrsWithin path node (ofJson path node) := by
  apply ErrsWithin.bind (node.errsWithin_wordOr path "toleranceMode" (some ToleranceMode.exact))
  intro mode _
  apply ErrsWithin.bind (errsWithin_tolerancesOfJson path node)
  intro tolerances _
  apply ErrsWithin.bind (.ofModel _)
  intro bare _
  apply ErrsWithin.bind (node.errsWithin_optionalBoolean path "includeLowerBound" true)
  intro includeLower _
  apply ErrsWithin.bind (node.errsWithin_optionalBoolean path "includeUpperBound" true)
  intro includeUpper _
  exact .pure _

end Equality

namespace Operator

theorem errsWithin_rounding {make : RoundingMode → Attribute Int64 → Operator} :
    ErrsWithin path node (do
      let mode ← roundingOfJson path node
      let figures ← node.integerAttribute path "figures" none
      return some (make mode figures)) := by
  apply ErrsWithin.bind (node.errsWithin_wordOr path "roundingMode" _)
  intro mode _
  apply ErrsWithin.bind (node.errsWithin_integerAttribute path "figures" none)
  intro figures _
  exact .pure _

theorem errsWithin_ofJson (kind : String) : ErrsWithin path node (ofJson kind path node) := by
  unfold ofJson
  split
  case h_4 =>
    apply ErrsWithin.bind (node.errsWithin_integerAttribute path "min" none)
    intro least _
    apply ErrsWithin.bind (node.errsWithin_integerAttribute path "max" none)
    intro most _
    exact .pure _
  case h_6 =>
    apply ErrsWithin.bind (node.errsWithin_optionalBoolean path "caseSensitive" true)
    intro caseSensitive _
    apply ErrsWithin.bind (node.errsWithin_optionalBoolean path "substring" false)
    intro substring _
    exact .pure _
  case h_7 => exact .bind (node.errsWithin_stringAttribute path "pattern") fun _ _ => .pure _
  case h_8 =>
    exact .bind (node.errsWithin_optionalBoolean path "caseSensitive" true) fun _ _ => .pure _
  case h_9 => exact .bind (Equality.errsWithin_ofJson path node) fun _ _ => .pure _
  case h_10 => exact errsWithin_rounding path node
  case h_17 => exact .bind (Area.errsWithin_ofJson path node) fun _ _ => .pure _
  case h_27 => exact errsWithin_rounding path node
  case h_33 =>
    exact .bind (node.errsWithin_requireWord path "name" MathFunction) fun _ _ => .pure _
  case h_34 =>
    exact .bind (node.errsWithin_requireWord path "name" StatsFunction) fun _ _ => .pure _
  case h_39 => exact .bind (node.errsWithin_integerAttribute path "n" none) fun _ _ => .pure _
  case h_40 =>
    exact .bind (node.errsWithin_requireString path "fieldIdentifier") fun _ _ => .pure _
  case h_45 =>
    exact .bind (node.errsWithin_integerAttribute path "numberRepeats" none) fun _ _ => .pure _
  -- the other kinds have no attributes
  all_goals exact .ok _

end Operator

/-! ## Expressions -/

namespace Expression

theorem errsWithin_assemble (kind : String) (operands : List Expression) :
    ErrsWithin path node (assemble path node kind operands) := by
  have identified : ∀ make : String → Expression,
      ErrsWithin path node ((node.requireString path "identifier").map make) :=
    fun make => .map make (node.errsWithin_requireString path "identifier")
  unfold assemble
  split
  case h_1 =>
    apply ErrsWithin.bind (node.errsWithin_requireWord path "baseType" BaseType)
    intro baseType _
    exact Scalar.errsWithin_ofField path node baseType "value" fun scalar => .pure _
  case h_5 => exact .ok _
  case h_8 => exact .map _ (node.errsWithin_requireWord path "name" MathConstant)
  case h_9 =>
    apply ErrsWithin.bind (node.errsWithin_integerAttribute path "min" (some 0))
    intro low _
    apply ErrsWithin.bind (node.errsWithin_integerAttribute path "max" none)
    intro high _
    apply ErrsWithin.bind (node.errsWithin_integerAttribute path "step" (some 1))
    intro step _
    exact .pure _
  case h_10 =>
    apply ErrsWithin.bind (node.errsWithin_floatAttribute path "min" (some 0.0))
    intro low _
    apply ErrsWithin.bind (node.errsWithin_floatAttribute path "max" none)
    intro high _
    exact .pure _
  case h_11 =>
    apply ErrsWithin.bind
    · apply ErrsWithin.bind (node.errsWithin_optionalString path "class")
      intro className _
      apply ErrsWithin.bind (node.errsWithin_optionalString path "definition")
      intro definition _
      apply ErrsWithin.bind (node.errsWithin_optionalString path "markup")
      intro markup _
      exact .pure _
    · intro operator _
      exact .pure _
  case h_12 =>
    apply ErrsWithin.bind (Operator.errsWithin_ofJson path node kind)
    intro found _
    cases found with
    | some operator => exact .pure _
    | none => exact .unknownKind _ _
  all_goals exact identified _

theorem ofItems_eq_readItems (position : Nat) (items : List Json) :
    ofItems path position items = Json.readItems ofJson path position items := by
  induction items generalizing position with
  | nil => rw [ofItems, Json.readItems]
  | cons item items induction => rw [ofItems, Json.readItems, induction]

theorem errsWithin_ofJson (path : Path) (node : Json) :
    ErrsWithin path node (ofJson path node) := by
  rw [ofJson]
  apply ErrsWithin.bind (node.errsWithin_requireString path "kind")
  intro kind _
  split
  next => exact errsWithin_assemble path node kind []
  next items found =>
    have operandsErr : ErrsWithin (path.child "operands") (.array items)
        (ofItems (path.child "operands") 0 items) := by
      rw [ofItems_eq_readItems]
      apply ErrsWithin.readItems
      intro item member path
      have listed : item ∈ node.itemsOf "operands" := by
        rw [Json.itemsOf_of_field? found]
        exact member
      exact errsWithin_ofJson path item
    apply ErrsWithin.bind (.ofField found operandsErr)
    intro operands _
    exact errsWithin_assemble path node kind operands
  next => exact .invalidField _
  termination_by sizeOf node
  decreasing_by exact Json.sizeOf_lt_of_mem_itemsOf listed

end Expression

/-! ## Rules -/

namespace Rule

theorem errsWithin_expressionOfJson : ErrsWithin path node (expressionOfJson path node) := by
  apply ErrsWithin.bind (node.errsWithin_requireField path "expression")
  intro raw required
  exact .ofField (Json.requireField_eq_ok required) (Expression.errsWithin_ofJson _ raw)

theorem errsWithin_simpleOfJson (family : RuleFamily) (kind : String) :
    ErrsWithin path node (simpleOfJson family path node kind) := by
  unfold simpleOfJson
  split
  next =>
    apply ErrsWithin.bind (node.errsWithin_requireString path "identifier")
    intro target _
    apply ErrsWithin.bind (errsWithin_expressionOfJson path node)
    intro expression _
    exact .pure _
  next =>
    split
    next => exact .ok _
    next => exact .ok _
    next => exact .ok _
    next => exact .map _ (errsWithin_expressionOfJson path node)
    next =>
      apply ErrsWithin.bind (node.errsWithin_requireString path "target")
      intro target _
      apply ErrsWithin.bind (errsWithin_expressionOfJson path node)
      intro guard _
      exact .pure _
    next => exact .unknownKind _ _

theorem ofItems_eq_readItems (family : RuleFamily) (position : Nat) (items : List Json) :
    ofItems family path position items = Json.readItems (ofJson family) path position items := by
  induction items generalizing position with
  | nil => rw [ofItems, Json.readItems]
  | cons item items induction => rw [ofItems, Json.readItems, induction]

theorem armsOfItems_eq_readItems (family : RuleFamily) (position : Nat) (items : List Json) :
    armsOfItems family path position items =
      Json.readItems (armOfJson family) path position items := by
  induction items generalizing position with
  | nil => rw [armsOfItems, Json.readItems]
  | cons item items induction => rw [armsOfItems, Json.readItems, induction]

/-! The readers of blocks and arms err within their nodes if the reader of rules does so in
each rule that they read. -/

section Parts

variable (family : RuleFamily)

theorem errsWithin_blockOfJson
    (errs : ∀ rule ∈ node.items, ∀ path, ErrsWithin path rule (ofJson family path rule)) :
    ErrsWithin path node (blockOfJson family path node) := by
  cases node with
  | array items =>
      rw [blockOfJson, ofItems_eq_readItems]
      exact .readItems errs
  | _ =>
      rw [blockOfJson]
      · exact .invalid _
      · intro items isArray
        cases isArray

theorem errsWithin_blockOfField (field : String)
    (errs : ∀ rule ∈ node.itemsOf field, ∀ path, ErrsWithin path rule (ofJson family path rule)) :
    ErrsWithin path node (blockOfField family path node field) := by
  rw [blockOfField]
  split
  next => exact .ok _
  next raw found =>
    have inside : ∀ rule ∈ raw.items, rule ∈ node.itemsOf field := by
      intro rule member
      rw [Json.itemsOf, found]
      exact member
    have block := errsWithin_blockOfJson (path.child field) raw family fun rule member =>
      errs rule (inside rule member)
    exact .map _ (.ofField found block)

theorem errsWithin_armOfJson
    (errs : ∀ rule ∈ node.itemsOf "rules", ∀ path,
      ErrsWithin path rule (ofJson family path rule)) :
    ErrsWithin path node (armOfJson family path node) := by
  rw [armOfJson]
  apply ErrsWithin.bind (node.errsWithin_requireField path "expression")
  intro raw required
  apply ErrsWithin.bind (errsWithin_blockOfField path node family "rules" errs)
  intro rules _
  apply ErrsWithin.bind
    (.ofField (Json.requireField_eq_ok required) (Expression.errsWithin_ofJson _ raw))
  intro guard _
  exact .pure _

theorem errsWithin_firstArmOfJson
    (errs : ∀ arm ∈ node.armNodes, ∀ path, ErrsWithin path arm (armOfJson family path arm)) :
    ErrsWithin path node (firstArmOfJson family path node) := by
  rw [firstArmOfJson]
  split
  next absent => exact .missing (.inl absent)
  next raw found =>
    have listed : raw ∈ node.armNodes :=
      List.mem_append_left _ (Option.mem_toList.mpr found)
    exact .ofField found (errs raw listed _)

theorem errsWithin_otherArmsOfJson
    (errs : ∀ arm ∈ node.armNodes, ∀ path, ErrsWithin path arm (armOfJson family path arm)) :
    ErrsWithin path node (otherArmsOfJson family path node) := by
  rw [otherArmsOfJson]
  split
  next => exact .ok _
  next items found =>
    rw [armsOfItems_eq_readItems]
    apply ErrsWithin.ofField found
    apply ErrsWithin.readItems
    intro arm member
    refine errs arm (List.mem_append_right _ ?_)
    rw [Json.itemsOf_of_field? found]
    exact member
  next => exact .invalidField _

theorem errsWithin_conditionOfJson
    (errs : ∀ arm ∈ node.armNodes, ∀ path, ErrsWithin path arm (armOfJson family path arm))
    (lastErrs : ∀ rule ∈ node.itemsOf "else", ∀ path,
      ErrsWithin path rule (ofJson family path rule)) :
    ErrsWithin path node (conditionOfJson family path node) := by
  rw [conditionOfJson]
  apply ErrsWithin.bind (errsWithin_firstArmOfJson path node family errs)
  intro first _
  apply ErrsWithin.bind (errsWithin_otherArmsOfJson path node family errs)
  intro others _
  apply ErrsWithin.bind (errsWithin_blockOfField path node family "else" lastErrs)
  intro last _
  exact .pure _

end Parts

theorem errsWithin_ofJson (family : RuleFamily) (path : Path) (node : Json) :
    ErrsWithin path node (ofJson family path node) := by
  rw [ofJson]
  apply ErrsWithin.bind (node.errsWithin_requireString path "kind")
  intro kind _
  split
  next inner _ =>
    apply errsWithin_conditionOfJson
    · intro arm armMember path
      apply errsWithin_armOfJson
      intro rule member path
      have smaller : sizeOf rule < sizeOf node :=
        Nat.lt_trans (Json.sizeOf_lt_of_mem_itemsOf member)
          (Json.sizeOf_lt_of_mem_armNodes armMember)
      exact errsWithin_ofJson inner path rule
    · intro rule member path
      have smaller := Json.sizeOf_lt_of_mem_itemsOf member
      exact errsWithin_ofJson inner path rule
  next inner _ _ =>
    apply ErrsWithin.bind
    · apply errsWithin_blockOfField
      intro rule member path
      have smaller := Json.sizeOf_lt_of_mem_itemsOf member
      exact errsWithin_ofJson inner path rule
    · intro rules _
      exact .pure _
  next => exact errsWithin_simpleOfJson path node family kind
  termination_by sizeOf node

end Rule

theorem Processing.errsWithin_ofJson (family : RuleFamily) :
    ErrsWithin path node (ofJson family path node) := by
  unfold ofJson
  cases found : node.field? "rules"
  case' none => apply ErrsWithin.bind (.pure [])
  case' some raw =>
    have block := Rule.errsWithin_blockOfJson (path.child "rules") raw family fun rule _ path =>
      Rule.errsWithin_ofJson family path rule
    apply ErrsWithin.bind (.ofField found block)
  all_goals
    intro rules _
    apply ErrsWithin.bind (node.errsWithin_optionalString path "template")
    intro template _
    apply ErrsWithin.bind (node.errsWithin_optionalString path "templateLocation")
    intro templateLocation _
    exact .pure _

end Assessment
