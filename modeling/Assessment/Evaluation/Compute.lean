import Assessment.Evaluation.Collection
import Assessment.Evaluation.Comparison
import Assessment.Evaluation.Logic
import Assessment.Evaluation.Signature
import Assessment.Pattern.Reader

/-!
# What operators compute

`Operator.compute` gives the result of an operator for operands that its signature
admits.  All operators but `random` are functions of their operands and of the
variables that their attributes refer to.
-/

namespace Assessment

namespace Operator

/-- Runs a function of one operand on a view of it. -/
def unary {α : Type} (operator : Operator) (view : Value → Option α)
    (run : α → Evaluated Value) : List Value → Evaluated Value
  | [operand] =>
      match view operand with
      | some operand => run operand
      | none => .error (.misapplied operator.name)
  | _ => .error (.misapplied operator.name)

/-- Runs a function of two operands on views of them. -/
def binary {α β : Type} (operator : Operator) (leftView : Value → Option α)
    (rightView : Value → Option β) (run : α → β → Evaluated Value) :
    List Value → Evaluated Value
  | [left, right] =>
      match leftView left, rightView right with
      | some left, some right => run left right
      | _, _ => .error (.misapplied operator.name)
  | _ => .error (.misapplied operator.name)

/-- Runs one function if all operands are integers, and another one on floats
otherwise. -/
def numeric (operator : Operator) (onIntegers : List Int64 → Evaluated Value)
    (onFloats : List Float → Evaluated Value) (operands : List Value) : Evaluated Value :=
  match operands.mapM Value.integer? with
  | some integers => onIntegers integers
  | none =>
      match operands.mapM Value.number? with
      | some floats => onFloats floats
      | none => .error (.misapplied operator.name)

/-- Runs one function if all scalars of the operands are integers, and another one on
floats otherwise. -/
def overNumbers (onIntegers : List Int64 → Value) (onFloats : List Float → Value)
    (operands : List Value) : Value :=
  let scalars := operands.flatMap Value.scalars
  match scalars.mapM Scalar.integer? with
  | some integers => onIntegers integers
  | none => onFloats (scalars.filterMap Scalar.number?)

/-- The integers in values and containers. -/
def integers (operands : List Value) : List Int64 :=
  (operands.flatMap Value.scalars).filterMap Scalar.integer?

/-- Whether a text as a whole matches a pattern. -/
def matchPattern (operator : Operator) (pattern text : String) : Evaluated Value :=
  match Pattern.whole? pattern.toList with
  | some compiled => .ok (.boolean (compiled.occursIn text.toList))
  | none => .error (.invalidAttribute operator.name "pattern" .notPattern)

/-- The difference of two numbers. -/
def difference (operator : Operator) : List Value → Evaluated Value :=
  numeric operator
    (fun operands => match operands with
      | [a, b] => Arithmetic.subtractIntegers a b
      | _ => .error (.misapplied operator.name))
    (fun operands => match operands with
      | [a, b] => .ok (.ofFinite (a - b))
      | _ => .error (.misapplied operator.name))

/-- A function of one number.  The magnitude of an integer is an integer. -/
def applyFunction (operator : Operator) (function : MathFunction) (scalar : Scalar) :
    Evaluated Value :=
  match function, scalar with
  | .abs, .integer i => .ok (Arithmetic.absInteger i)
  | _, _ =>
      match scalar.number? with
      | some x => .ok (Arithmetic.apply function x)
      | none => .error (.misapplied operator.name)

/-- The result of an operator for operands that its signature admits.  `limit` bounds
the size of repeated containers. -/
def compute (store : Store) (limit : Nat) (operator : Operator) (operands : List Value) :
    Evaluated Value :=
  match operator with
  | .and => .ok (.ofTruth (Truth.and (operands.map Value.truth)))
  | .or => .ok (.ofTruth (Truth.or (operands.map Value.truth)))
  | .not => operator.unary some (fun operand => .ok (.ofTruth operand.truth.not)) operands
  | .anyN least most => do
      let least ← least.resolveInteger operator.name "min" store
      let most ← most.resolveInteger operator.name "max" store
      return .ofTruth (Truth.anyN least.toInt most.toInt (operands.map Value.truth))
  | .identical => operator.binary some some Comparison.identical operands
  | .stringMatch caseSensitive anywhere =>
      operator.binary Value.string? Value.string?
        (fun a b =>
          .ok (.boolean (if anywhere then Comparison.occurs caseSensitive b a
            else Comparison.sameText caseSensitive a b)))
        operands
  | .patternMatch pattern => do
      let pattern ← pattern.resolveString operator.name "pattern" store
      operator.unary Value.string? (operator.matchPattern pattern) operands
  | .substring caseSensitive =>
      operator.binary Value.string? Value.string?
        (fun needle text => .ok (.boolean (Comparison.occurs caseSensitive needle text)))
        operands
  | .equal equality =>
      operator.binary Value.number? Value.number? (Comparison.equal store equality) operands
  | .equalRounded mode figures => do
      let figures ← figures.resolveInteger operator.name "figures" store
      operator.binary Value.number? Value.number? (Comparison.equalRounded mode figures)
        operands
  | .compare order =>
      operator.binary Value.number? Value.number?
        (fun a b => .ok (.boolean (Comparison.holds order a b))) operands
  | .compareDurations order =>
      operator.binary Value.duration? Value.duration?
        (fun a b => .ok (.boolean (Comparison.durationsHold order a b))) operands
  | .inside area =>
      operator.unary some
        (fun operand => .ok (.boolean (Comparison.hits area operand.points))) operands
  | .sum =>
      operator.numeric Arithmetic.sumIntegers
        (fun values => .ok (.ofFinite (sumFloats values))) operands
  | .product =>
      operator.numeric Arithmetic.multiplyIntegers
        (fun values => .ok (.ofFinite (Arithmetic.multiplyFloats values))) operands
  | .subtract => operator.difference operands
  | .divide =>
      operator.binary Value.number? Value.number?
        (fun a b => .ok (Arithmetic.divide a b)) operands
  | .power =>
      operator.binary Value.number? Value.number?
        (fun a b => .ok (.ofFinite (a.pow b))) operands
  | .integerDivide =>
      operator.binary Value.integer? Value.integer? Arithmetic.integerDivide operands
  | .integerModulus =>
      operator.binary Value.integer? Value.integer? Arithmetic.integerModulus operands
  | .truncate =>
      operator.unary Value.number? (fun x => .ok (Arithmetic.truncate x)) operands
  | .round => operator.unary Value.number? (fun x => .ok (Arithmetic.round x)) operands
  | .roundTo mode figures => do
      let figures ← figures.resolveInteger operator.name "figures" store
      operator.unary Value.number? (Arithmetic.roundTo mode figures) operands
  | .integerToFloat =>
      operator.unary Value.integer? (fun i => .ok (.float (Real64.ofInteger i))) operands
  | .gcd => Arithmetic.gcd (integers operands)
  | .lcm => Arithmetic.lcm (integers operands)
  | .min => .ok (overNumbers Arithmetic.leastInteger Arithmetic.leastFloat operands)
  | .max => .ok (overNumbers Arithmetic.greatestInteger Arithmetic.greatestFloat operands)
  | .math .atan2 =>
      operator.binary Value.number? Value.number?
        (fun a b => .ok (.ofFinite (Float.atan2 a b))) operands
  | .math function => operator.unary Value.single? (operator.applyFunction function) operands
  | .stats function =>
      operator.unary Value.container?
        (fun container =>
          .ok (Arithmetic.statistic function (container.values.filterMap Scalar.number?)))
        operands
  | .multiple => Collection.collect operator.name .multiple operands
  | .ordered => Collection.collect operator.name .ordered operands
  | .containerSize =>
      operator.unary some
        (fun operand => .ok (.integer (Int64.ofNat (Collection.size operand)))) operands
  | .isNull => operator.unary some (fun operand => .ok (.boolean operand.isNull)) operands
  | .index position => do
      let position ← position.resolveInteger operator.name "n" store
      operator.unary Value.container? (Collection.index · position) operands
  | .fieldValue field =>
      operator.unary Value.record?
        (fun fields => .ok (Collection.ofScalar? (fields.get? field))) operands
  | .random => .error (.misapplied operator.name)
  | .member => operator.binary Value.single? some Collection.member operands
  | .delete => operator.binary Value.single? some Collection.delete operands
  | .contains => operator.binary some some Collection.contains operands
  | .replicate count => do
      let count ← count.resolveInteger operator.name "numberRepeats" store
      Collection.replicate limit count operands

end Operator

end Assessment
