import Assessment.Proofs.ContainerAccess
import Assessment.Proofs.Coverage
import Assessment.Proofs.DeclaredAreas
import Assessment.Proofs.Guarded
import Assessment.Proofs.History
import Assessment.Proofs.MachineArithmetic

/-!
# Evaluation never faults

Guarded evaluation goes through an expression as evaluation does, with every partial
operation guarded: accesses of operands, coordinates and vertices, the integer operations
on words, the runs of sequences and the ranges of random numbers.  In the stores of
attempts at accepted documents it comes to an end with the result of the evaluator, so that
no guard is ever missed.
-/

namespace Assessment

/-- The result of an operator; that it missed an operand is a fault. -/
def Evaluated.found? {α : Type} : Evaluated α → Option (Evaluated α)
  | .error (.misapplied _) => none
  | result => some result

theorem Evaluated.found?_eq_some {α : Type} {result : Evaluated α} (covered : Covered result) :
    found? result = some result := by
  unfold found?
  split
  next operator => exact absurd rfl (covered operator)
  next => rfl

namespace Guarded

/-! ## Guarded operators -/

/-- Runs an operator.  Those that have partial operations besides reading their operands
are spelled out. -/
def compute (context : Context) (operator : Operator) (operands : List Value) :
    Guarded Value :=
  match operator with
  | .anyN least most => do
      let least ← least.resolveInteger operator.name "min" context.store
      let most ← most.resolveInteger operator.name "max" context.store
      let truth ← Truth.anyN? least.toInt most.toInt (operands.map Value.truth)
      return .ofTruth truth
  | .inside area => do
      let operand ← operands[0]?
      let hit ← area.hits? operand.points
      return .boolean hit
  | .integerDivide => do
      let left ← operands[0]?
      let right ← operands[1]?
      let a ← left.integer?
      let b ← right.integer?
      ofResult (Arithmetic.integerDivide? a b)
  | .integerModulus => do
      let left ← operands[0]?
      let right ← operands[1]?
      let a ← left.integer?
      let b ← right.integer?
      ofResult (Arithmetic.integerModulus? a b)
  | .gcd => ofResult (Arithmetic.gcd? (Operator.integers operands))
  | .lcm => ofResult (Arithmetic.lcm? (Operator.integers operands))
  | .index position => do
      let position ← position.resolveInteger operator.name "n" context.store
      let operand ← operands[0]?
      let container ← operand.container?
      ofResult (Collection.index? container position)
  | .contains => do
      let left ← operands[0]?
      let right ← operands[1]?
      ofResult (Collection.contains? left right)
  | .random => do
      let operand ← operands[0]?
      drawScalar operand
  | operator =>
      ofResult (Evaluated.found?
        (operator.compute context.store context.settings.maxContainerSize operands))

def applyOperator (context : Context) (operator : Operator) (operands : List Value) :
    Guarded Value := do
  operator.signature.check operator.name operands
  if operator.signature.propagatesNull && operands.any Value.isNull then return .null
  else compute context operator operands

def applyCustom (context : Context) (operator : CustomOperator) (operands : List Value) :
    Guarded Value :=
  ofResult (Evaluated.found? (operator.apply context operands))

/-! ## Guarded expressions -/

def areaScore (v : Variable) : Guarded Value :=
  match v.responseInfo?.bind (·.areaMapping) with
  | none => throw (.invalidVariable "mapResponsePoint" v.identifier .noAreaMapping)
  | some mapping =>
      match v.value with
      | .record _ => throw (.invalidVariable "mapResponsePoint" v.identifier .isRecord)
      | value => do
          let score ← mapping.score? value.points
          return .float score

def leafValue (context : Context) : Expression → Guarded Value
  | .mapResponsePoint identifier => do
      let v ← context.lookUp identifier
      areaScore v
  | .randomInteger low high step => do
      let low ← low.resolveInteger "randomInteger" "min" context.store
      let high ← high.resolveInteger "randomInteger" "max" context.store
      let step ← step.resolveInteger "randomInteger" "step" context.store
      drawInteger low high step
  | .randomFloat low high => do
      let low ← low.resolveFloat "randomFloat" "min" context.store
      let high ← high.resolveFloat "randomFloat" "max" context.store
      drawFloat low high
  | leaf => draw (leaf.leafValue context)

mutual

/-- The value of an expression at the given depth, below which the whole expression has
nodes on `levels` levels. -/
def evaluateAt (context : Context) (levels depth : Nat) : Expression → Guarded Value
  | .apply operator operands => do
      context.checkDepth depth
      let values ← evaluateAllAt context levels depth operands
      applyOperator context operator values
  | .custom operator operands => do
      context.checkDepth depth
      let values ← evaluateAllAt context levels depth operands
      applyCustom context operator values
  | leaf => do
      context.checkDepth depth
      leafValue context leaf

/-- The values of the operands of a node at the given depth. -/
def evaluateAllAt (context : Context) (levels depth : Nat) :
    List Expression → Guarded (List Value)
  | [] => return []
  | operand :: operands => do
      let below ← Word.sumOfCounts? levels depth 1
      let value ← evaluateAt context levels below operand
      let values ← evaluateAllAt context levels depth operands
      return value :: values

end

/-- The value of an expression, unless a partial operation faults. -/
def evaluate (context : Context) (expression : Expression) : Guarded Value :=
  evaluateAt context expression.depth 1 expression

/-! ## Operators -/

variable {context : Context} {operator : Operator} {operands : List Value}

theorem exists_integers (admits : (Signature.exactly 2 [⟨[.single], [.integer]⟩]).Admits operands)
    (notNull : ∀ operand ∈ operands, operand.isNull = false) :
    ∃ left right a b, operands = [left, right] ∧ left.integer? = some a ∧
      right.integer? = some b := by
  obtain ⟨left, right, rfl, admittedLeft, admittedRight⟩ := admits.exists_two rfl rfl rfl rfl
  obtain ⟨a, foundA⟩ := admittedLeft.exists_view Scalar.integer? (notNull left (by simp))
    (by decide) fun _ => Scalar.isSome_integer?
  obtain ⟨b, foundB⟩ := admittedRight.exists_view Scalar.integer? (notNull right (by simp))
    (by decide) fun _ => Scalar.isSome_integer?
  exact ⟨left, right, a, b, rfl, foundA, foundB⟩

/-- Operators without partial operations of their own read operands only. -/
theorem found_follows (different : operator ≠ .random)
    (admits : operator.signature.Admits operands)
    (notNull : operator.signature.propagatesNull = true →
      ∀ operand ∈ operands, operand.isNull = false) :
    Follows
      (ofResult (Evaluated.found?
        (operator.compute context.store context.settings.maxContainerSize operands)))
      (liftM (operator.compute context.store context.settings.maxContainerSize operands)) :=
  .ofResult (Evaluated.found?_eq_some (Operator.covered_compute different admits notNull))

theorem compute_follows (different : operator ≠ .random) (made : operator.AreaMade)
    (admits : operator.signature.Admits operands)
    (notNull : operator.signature.propagatesNull = true →
      ∀ operand ∈ operands, operand.isNull = false) :
    Follows (compute context operator operands)
      (liftM (operator.compute context.store context.settings.maxContainerSize operands)) := by
  cases operator with
  | anyN least most =>
      exact .bind_result fun _ => .bind_result fun _ =>
        .of_some (Truth.anyN?_eq_some _ _ _) (.pure _)
  | inside area =>
      obtain ⟨operand, rfl, _⟩ := admits.exists_one rfl rfl rfl
      exact .of_some rfl (.of_some (Area.hits?_eq_some (made area rfl) _) (.pure _))
  | integerDivide =>
      obtain ⟨left, right, a, b, rfl, foundA, foundB⟩ := exists_integers admits (notNull rfl)
      simp only [Operator.compute, Operator.binary, foundA, foundB]
      exact .of_some rfl (.of_some rfl (.of_some foundA (.of_some foundB
        (.ofResult (Arithmetic.integerDivide?_eq_some a b)))))
  | integerModulus =>
      obtain ⟨left, right, a, b, rfl, foundA, foundB⟩ := exists_integers admits (notNull rfl)
      simp only [Operator.compute, Operator.binary, foundA, foundB]
      exact .of_some rfl (.of_some rfl (.of_some foundA (.of_some foundB
        (.ofResult (Arithmetic.integerModulus?_eq_some a b)))))
  | gcd => exact .ofResult (Arithmetic.gcd?_eq_some _)
  | lcm => exact .ofResult (Arithmetic.lcm?_eq_some _)
  | index position =>
      obtain ⟨operand, rfl, admitted⟩ := admits.exists_one rfl rfl rfl
      obtain ⟨container, found⟩ :=
        admitted.exists_container (by decide) (notNull rfl operand (by simp))
      simp only [Operator.compute, Operator.unary, found]
      exact .bind_result fun position => .of_some rfl (.of_some found
        (.ofResult (Collection.index?_eq_some container position)))
  | contains =>
      obtain ⟨left, right, rfl, _⟩ := admits.exists_two rfl rfl rfl rfl
      exact .of_some rfl (.of_some rfl (.ofResult (Collection.contains?_eq_some left right)))
  | random => exact absurd rfl different
  | _ => exact found_follows different admits notNull

theorem applyRandom_follows :
    Follows (applyOperator context .random operands) (Operator.random.apply context operands) := by
  refine .bind_ofEvaluated fun _ checked => .ite (fun _ => .pure _) fun _ => ?_
  obtain ⟨operand, rfl, _⟩ := (Signature.check_eq_ok_iff.mp checked).exists_one rfl rfl rfl
  exact .of_some rfl (drawScalar_follows operand)

/-- The check of the signature, and NULL, come before anything that could fault. -/
theorem applyOperator_follows (made : operator.AreaMade) :
    Follows (applyOperator context operator operands) (operator.apply context operands) := by
  by_cases random : operator = .random
  · rw [random]
    exact applyRandom_follows
  · rw [Operator.apply_eq_of_ne_random random]
    refine .bind_ofEvaluated fun _ checked => .ite (fun _ => .pure _) fun handled => ?_
    refine compute_follows random made (Signature.check_eq_ok_iff.mp checked) ?_
    intro propagates operand member
    refine eq_false_of_ne_true fun null => handled ?_
    rw [Bool.and_eq_true, List.any_eq_true]
    exact ⟨propagates, operand, member, null⟩

/-! ## Expressions -/

theorem applyCustom_follows {operator : CustomOperator} (covered : context.registry.Covered) :
    Follows (applyCustom context operator operands) (liftM (operator.apply context operands)) := by
  refine .ofResult (Evaluated.found?_eq_some ?_)
  unfold CustomOperator.apply
  split
  next extension found => exact covered.resolve found operands operator.markup
  next => exact Evaluated.covered_of_error nofun

theorem mem_of_lookUp {identifier : String} {v : Variable}
    (found : context.lookUp identifier = .ok v) : v ∈ context.store.declared := by
  unfold Context.lookUp at found
  split at found
  next there =>
    cases found
    exact Store.mem_of_get? there
  next => cases found

theorem areaScore_follows {v : Variable} (made : v.role.AreasMade) :
    Follows (areaScore v) (liftM v.areaScore) := by
  unfold areaScore Variable.areaScore
  cases found : v.responseInfo?.bind (·.areaMapping) with
  | none => exact .throw _
  | some mapping =>
      have mappingMade : mapping.Made := by
        obtain ⟨info, response, declared⟩ := Option.bind_eq_some_iff.mp found
        refine made info mapping ?_ declared
        unfold Variable.responseInfo? at response
        split at response
        next same => rw [same, Option.some.inj response]
        next => cases response
      have scored := fun points => AreaMapping.score?_eq_some mappingMade points
      cases v.value with
      | record => exact .throw _
      | _ => exact .of_some (scored _) (.pure _)

theorem leafValue_follows (areas : context.store.AreasMade) (leaf : Expression) :
    Follows (leafValue context leaf) (leaf.leafValue context) := by
  cases leaf with
  | mapResponsePoint identifier =>
      refine .bind_ofEvaluated fun v found => areaScore_follows (areas v ?_)
      exact mem_of_lookUp found
  | randomInteger low high step =>
      exact .bind (.ofEvaluated _) fun low => .bind (.ofEvaluated _) fun high =>
        .bind (.ofEvaluated _) fun step => drawInteger_follows low high step
  | randomFloat low high =>
      exact .bind (.ofEvaluated _) fun low => .bind (.ofEvaluated _) fun high =>
        drawFloat_follows low high
  | _ => exact .draw _

theorem one_le_depth (expression : Expression) : 1 ≤ expression.depth := by
  cases expression <;> simp [Expression.depth]

theorem sumOfCounts?_eq_some {present a b : Nat} (within : a + b ≤ present) :
    Word.sumOfCounts? present a b = some (a + b) :=
  if_pos within

mutual

/-- The depth of a node counts no more levels than there are. -/
theorem evaluateAt_follows (areas : context.store.AreasMade)
    (covered : context.registry.Covered) {levels depth : Nat} {expression : Expression}
    (made : expression.AreasMade) (within : depth + expression.depth ≤ levels + 1) :
    Follows (evaluateAt context levels depth expression)
      (expression.evaluateAt context depth) := by
  cases expression with
  | apply operator operands =>
      rw [evaluateAt, Expression.evaluateAt]
      refine .bind (.ofEvaluated _) fun _ => ?_
      refine .bind (evaluateAllAt_follows areas covered made.2 ?_) fun values =>
        applyOperator_follows made.1
      rw [Expression.depth] at within
      omega
  | custom operator operands =>
      rw [evaluateAt, Expression.evaluateAt]
      refine .bind (.ofEvaluated _) fun _ => ?_
      refine .bind (evaluateAllAt_follows areas covered made ?_) fun values =>
        applyCustom_follows covered
      rw [Expression.depth] at within
      omega
  | _ =>
      simp only [evaluateAt, Expression.evaluateAt]
      exact .bind (.ofEvaluated _) fun _ => leafValue_follows areas _

theorem evaluateAllAt_follows (areas : context.store.AreasMade)
    (covered : context.registry.Covered) {levels depth : Nat} {operands : List Expression}
    (made : Expression.AllAreasMade operands)
    (within : depth + Expression.maxDepth operands ≤ levels) :
    Follows (evaluateAllAt context levels depth operands)
      (Expression.evaluateAllAt context (depth + 1) operands) := by
  cases operands with
  | nil => exact .pure _
  | cons operand operands =>
      have nonzero := one_le_depth operand
      rw [Expression.maxDepth] at within
      have first : depth + operand.depth ≤ levels :=
        Nat.le_trans (Nat.add_le_add_left (Nat.le_max_left _ _) depth) within
      have others : depth + Expression.maxDepth operands ≤ levels :=
        Nat.le_trans (Nat.add_le_add_left (Nat.le_max_right _ _) depth) within
      rw [evaluateAllAt, Expression.evaluateAllAt]
      refine .of_some (sumOfCounts?_eq_some (by omega)) ?_
      refine .bind (evaluateAt_follows areas covered made.1 (by omega)) fun value => ?_
      exact .bind (evaluateAllAt_follows areas covered made.2 others) fun values => .pure _

end

theorem evaluate_follows (areas : context.store.AreasMade) (covered : context.registry.Covered)
    {expression : Expression} (made : expression.AreasMade) :
    Follows (evaluate context expression) (expression.evaluate context) :=
  evaluateAt_follows areas covered made (by omega)

end Guarded

namespace Document.Reaches

variable {document : Document} {node json : Json} {path : Path} {store : Store}
  {expression : Expression}

/-- In every store of an attempt at an accepted document, and in every environment, guarded
evaluation of an expression that is read from a document ends without a fault, and it gives
and draws what the evaluator does. -/
theorem evaluate_guarded (accepted : ofJson node = .ok document)
    (reaches : document.Reaches store) (read : Expression.ofJson path json = .ok expression)
    (environment : Environment) (covered : environment.registry.Covered)
    (evaluator : Evaluator) :
    let context := environment.over store
    let evaluated := evaluator.evaluate context expression
    (Guarded.evaluate context expression).run.run evaluator.source =
      some (evaluated.1, evaluated.2.source) := by
  intro context evaluated
  obtain ⟨sameResult, sameSource⟩ := Evaluator.evaluate_realizes context expression evaluator
  have follows : Guarded.Follows (Guarded.evaluate context expression)
      (expression.evaluate context) :=
    Guarded.evaluate_follows (areasMade accepted reaches) covered
      (Expression.areasMade_of_ofJson read)
  rw [follows evaluator.source, ← Prod.mk.eta (p := (expression.evaluate context).run.run _),
    sameResult, sameSource]

/-! A point in a polygon is scored twice; minus seven is divided by the number of scores. -/

def hotspotItem : Json :=
  .object
    [("declarations", .array
        [.object
          [("areaMapping", .object
              [("entries", .array
                [.object
                  [("coords", .array
                      [.integer 0, .integer 0, .integer 4, .integer 0, .integer 0, .integer 4]),
                    ("mappedValue", .integer 1), ("shape", .string "poly")]])]),
            ("baseType", .string "point"), ("cardinality", .string "single"),
            ("identifier", .string "RESPONSE"), ("role", .string "response")]]),
      ("identifier", .string "hotspot")]

def hotspotAnswer : List (String × Value) :=
  [("RESPONSE", .single (.point ⟨1, 2⟩))]

def hotspotDivision : Json :=
  let score : Json :=
    .object [("identifier", .string "RESPONSE"), ("kind", .string "mapResponsePoint")]
  let scores : Json :=
    .object [("kind", .string "multiple"), ("operands", .array [score, score])]
  .object
    [("kind", .string "integerDivide"),
      ("operands", .array
        [.object
          [("baseType", .string "integer"), ("kind", .string "baseValue"),
            ("value", .integer (-7))],
          .object [("kind", .string "containerSize"), ("operands", .array [scores])]])]

def hotspotQuotient : Expression :=
  let score : Expression := .mapResponsePoint "RESPONSE"
  .apply .integerDivide
    [.baseValue (.integer (-7)), .apply .containerSize [.apply .multiple [score, score]]]

theorem evaluate_guarded_hotspot :
    ∃ document answered,
      let context := Environment.over ⟨.default, .standard⟩ answered
      let evaluator : Evaluator := .ofSource (.ofSeed 0)
      ofJson hotspotItem = .ok document ∧ document.newStore.bind hotspotAnswer = .ok answered ∧
        Expression.ofJson .root hotspotDivision = .ok hotspotQuotient ∧
        ((Guarded.evaluate context hotspotQuotient).run.run evaluator.source).map
          (·.1.toOption) = some (some (.integer (-4))) := by
  have answers : ∀ {document : Document} {answered : Store},
      document.newStore.bind hotspotAnswer = .ok answered → document.Reaches answered :=
    fun stored => bind .fresh stored
  -- the reader of expressions recurs on their size
  have read : Expression.ofJson .root hotspotDivision = .ok hotspotQuotient := by
    with_unfolding_all rfl
  have accepted : ofJson hotspotItem = .ok _ := rfl
  refine ⟨_, _, accepted, rfl, read, ?_⟩
  dsimp only
  rw [evaluate_guarded accepted (answers rfl) read ⟨.default, .standard⟩
    Registry.covered_standard (.ofSource (.ofSeed 0))]
  decide +kernel

end Document.Reaches

end Assessment
