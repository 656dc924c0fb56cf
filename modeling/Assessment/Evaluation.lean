import Assessment.Evaluation.Compute
import Assessment.Evaluation.Custom
import Assessment.Expression
import Assessment.RandomSource
import Assessment.Settings

/-!
# Evaluation

Expressions are evaluated against a store, operands from left to right before their
operator.  The store is only read; what an evaluation changes is the random source,
and only `random`, `randomInteger` and `randomFloat` draw from it.
-/

namespace Assessment

/-- A computation that may draw from the random source.  Draws made before an error
stay made. -/
abbrev Evaluation := ExceptT EvalError (StateM RandomSource)

/-- What stays the same while expressions are evaluated and rules are executed. -/
structure Environment where
  settings : Settings
  registry : Registry

/-- What expressions are evaluated with. -/
structure Context extends Environment where
  store : Store

/-- Evaluation with the variables of a store. -/
def Environment.over (environment : Environment) (store : Store) : Context :=
  { environment with store }

namespace Context

def lookUp (context : Context) (identifier : String) : Evaluated Variable :=
  match context.store.get? identifier with
  | some v => .ok v
  | none => .error (.unknownVariable identifier)

/-- Nodes may stand at most as deep as the settings allow. -/
def checkDepth (context : Context) (depth : Nat) : Evaluated Unit :=
  if context.settings.maxExpressionDepth < depth then
    .error (.depthExceeded context.settings.maxExpressionDepth)
  else .ok ()

end Context

namespace Evaluation

/-! ## Random draws -/

/-- What is drawn from the source, or `otherwise` if there is nothing to draw. -/
def take {α : Type} (draw? : RandomSource → Option (α × RandomSource)) (otherwise : α) :
    Evaluation α := do
  match draw? (← get) with
  | some (drawn, after) =>
      set after
      return drawn
  | none => return otherwise

/-- A number below a bound that is not zero. -/
def below (bound : Nat) : Evaluation Nat :=
  take (RandomSource.below? bound) 0

/-- A double between bounds that are in order. -/
def between (low high : Float) : Evaluation Float :=
  take (RandomSource.between? low high) low

/-- One of the scalars of a container, NULL if there are none. -/
def drawScalar (operand : Value) : Evaluation Value := do
  let scalars := match operand.container? with
    | some container => container.values
    | none => []
  if scalars.isEmpty then return .null
  else
    let position ← below scalars.length
    return Collection.ofScalar? scalars[position]?

/-- One of the numbers from `low` in steps up to `high`. -/
def drawInteger (low high step : Int64) : Evaluation Value := do
  let invalid := fun (name : String) (fault : AttributeFault) =>
    (.error (.invalidAttribute "randomInteger" name fault) : Evaluated Value)
  if step.toInt < 1 then invalid "step" (.notPositive step)
  else if high.toInt < low.toInt then
    invalid "max" (.belowMinimum (Integer.text high) (Integer.text low))
  else
    let steps := (high.toInt - low.toInt) / step.toInt
    let taken ← below (steps.toNat + 1)
    Value.ofInteger? "randomInteger" (low.toInt + taken * step.toInt)

/-- A double from `low` to `high`. -/
def drawFloat (low high : Float) : Evaluation Value := do
  let invalid := fun (name : String) (fault : AttributeFault) =>
    (.error (.invalidAttribute "randomFloat" name fault) : Evaluated Value)
  if !low.isFinite then invalid "min" (.notFinite (Real64.plainText low))
  else if !high.isFinite then invalid "max" (.notFinite (Real64.plainText high))
  else if high < low then
    invalid "max" (.belowMinimum (Real64.plainText high) (Real64.plainText low))
  else if !(high - low).isFinite then
    invalid "max" (.tooWide (Real64.plainText low) (Real64.plainText high))
  else if low == high then return .float low
  else
    let drawn ← between low high
    return .float drawn

end Evaluation

namespace Operator

/-- Checks the operands and runs the operator on them.  An operand that is NULL makes
the result NULL, unless the operator treats NULL itself. -/
def apply (context : Context) (operator : Operator) (operands : List Value) :
    Evaluation Value := do
  operator.signature.check operator.name operands
  if operator.signature.propagatesNull && operands.any Value.isNull then return .null
  else
    match operator, operands with
    | .random, [operand] => Evaluation.drawScalar operand
    | operator, operands =>
        operator.compute context.store context.settings.maxContainerSize operands

end Operator

namespace CustomOperator

/-- Looks the operator up and runs it on its operands. -/
def apply (context : Context) (operator : CustomOperator) (operands : List Value) :
    Evaluated Value :=
  match context.registry.resolve? operator.className operator.definition with
  | some extension => extension operands operator.markup
  | none =>
      .error (.unknownCustomOperator
        ((operator.className.or operator.definition).getD ""))

end CustomOperator

namespace Variable

/-- The score that the mapping of a response gives to its value. -/
def mappedScore (v : Variable) : Evaluated Value :=
  match v.responseInfo?.bind (·.mapping) with
  | none => .error (.invalidVariable "mapResponse" v.identifier .noMapping)
  | some mapping =>
      match v.value with
      | .record _ => .error (.invalidVariable "mapResponse" v.identifier .isRecord)
      | value => .ok (.float (mapping.score value.scalars))

/-- The score that the area mapping of a response gives to its points. -/
def areaScore (v : Variable) : Evaluated Value :=
  match v.responseInfo?.bind (·.areaMapping) with
  | none => .error (.invalidVariable "mapResponsePoint" v.identifier .noAreaMapping)
  | some mapping =>
      match v.value with
      | .record _ => .error (.invalidVariable "mapResponsePoint" v.identifier .isRecord)
      | value => .ok (.float (mapping.score value.points))

end Variable

namespace Expression

/-- The value of an expression without operands. -/
def leafValue (context : Context) : Expression → Evaluation Value
  | .baseValue scalar => return .single scalar
  | .valueOf identifier => do
      let v ← context.lookUp identifier
      return v.value
  | .correctOf identifier => do
      let v ← context.lookUp identifier
      match v.correct? with
      | some correct => return correct
      | none => throw (.invalidVariable "correct" identifier .notResponse)
  | .defaultOf identifier => do
      let v ← context.lookUp identifier
      return v.defaultValue
  | .mapResponse identifier => do
      let v ← context.lookUp identifier
      v.mappedScore
  | .mapResponsePoint identifier => do
      let v ← context.lookUp identifier
      v.areaScore
  | .mathConstant constant => return .float constant.value
  | .randomInteger low high step => do
      let low ← low.resolveInteger "randomInteger" "min" context.store
      let high ← high.resolveInteger "randomInteger" "max" context.store
      let step ← step.resolveInteger "randomInteger" "step" context.store
      Evaluation.drawInteger low high step
  | .randomFloat low high => do
      let low ← low.resolveFloat "randomFloat" "min" context.store
      let high ← high.resolveFloat "randomFloat" "max" context.store
      Evaluation.drawFloat low high
  | _ => return .null

mutual

/-- The value of an expression that stands at the given depth. -/
def evaluateAt (context : Context) (depth : Nat) : Expression → Evaluation Value
  | .apply operator operands => do
      context.checkDepth depth
      let values ← evaluateAllAt context (depth + 1) operands
      operator.apply context values
  | .custom operator operands => do
      context.checkDepth depth
      let values ← evaluateAllAt context (depth + 1) operands
      operator.apply context values
  | leaf => do
      context.checkDepth depth
      leaf.leafValue context

/-- The values of operands, from left to right up to the first error. -/
def evaluateAllAt (context : Context) (depth : Nat) :
    List Expression → Evaluation (List Value)
  | [] => return []
  | operand :: operands => do
      let value ← evaluateAt context depth operand
      let values ← evaluateAllAt context depth operands
      return value :: values

end

/-- The value of an expression. -/
def evaluate (context : Context) (expression : Expression) : Evaluation Value :=
  evaluateAt context 1 expression

end Expression

end Assessment
