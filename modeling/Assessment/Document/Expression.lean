import Assessment.Document.Variable
import Assessment.Expression

/-!
# Expressions in documents

An expression is an object whose field `kind` names its element.  Its operands are
read before its attributes, and they are dropped where the kind has none.
-/

namespace Assessment

namespace Equality

/-- One tolerance: a number, or the text of a literal or reference. -/
def toleranceOfText (path : Path) (text : String) : Reading (Attribute Float) :=
  match Attribute.readFloat? text with
  | some found => .ok found
  | none => Reading.invalid path (.notTolerance text)

def toleranceOfJson (path : Path) (json : Json) : Reading (Attribute Float) :=
  match json with
  | .string text => toleranceOfText path text
  | other =>
      match other.number? with
      | some number => .ok (.literal number)
      | none => Reading.invalid path .expectedReference

/-- The tolerances of the field `tolerance`: an array, a text of words, or one value. -/
def tolerancesOfJson (path : Path) (node : Json) : Reading (List (Attribute Float)) :=
  let inner := path.child "tolerance"
  match node.field? "tolerance" with
  | none | some .null => .ok []
  | some (.array items) => items.mapM (toleranceOfJson inner)
  | some (.string text) =>
      (Text.words text.toList).mapM fun word => toleranceOfText inner (String.ofList word)
  | some other => (toleranceOfJson inner other).map ([·])

def ofJson (path : Path) (node : Json) : Reading Equality := do
  let mode ← node.wordOr ToleranceMode path "toleranceMode" (some .exact)
  let tolerances ← tolerancesOfJson path node
  let bare ← Reading.ofModel path (make mode tolerances true true)
  let includeLower ← node.optionalBoolean path "includeLowerBound" true
  let includeUpper ← node.optionalBoolean path "includeUpperBound" true
  return { bare with includeLower, includeUpper }

end Equality

namespace Operator

def roundingOfJson (path : Path) (node : Json) : Reading RoundingMode :=
  node.wordOr RoundingMode path "roundingMode" (some .significantFigures)

/-- The operator of a kind with its attributes; `none` if no operator has this name. -/
def ofJson (kind : String) (path : Path) (node : Json) : Reading (Option Operator) :=
  match kind with
  | "and" => .ok (some .and)
  | "or" => .ok (some .or)
  | "not" => .ok (some .not)
  | "anyN" => do
      let least ← node.integerAttribute path "min" none
      let most ← node.integerAttribute path "max" none
      return some (.anyN least most)
  | "match" => .ok (some .identical)
  | "stringMatch" => do
      let caseSensitive ← node.optionalBoolean path "caseSensitive" true
      let substring ← node.optionalBoolean path "substring" false
      return some (.stringMatch caseSensitive substring)
  | "patternMatch" => do
      let pattern ← node.stringAttribute path "pattern"
      return some (.patternMatch pattern)
  | "substring" => do
      let caseSensitive ← node.optionalBoolean path "caseSensitive" true
      return some (.substring caseSensitive)
  | "equal" => do
      let equality ← Equality.ofJson path node
      return some (.equal equality)
  | "equalRounded" => do
      let mode ← roundingOfJson path node
      let figures ← node.integerAttribute path "figures" none
      return some (.equalRounded mode figures)
  | "lt" => .ok (some (.compare .lt))
  | "gt" => .ok (some (.compare .gt))
  | "lte" => .ok (some (.compare .lte))
  | "gte" => .ok (some (.compare .gte))
  | "durationLT" => .ok (some (.compareDurations .shorter))
  | "durationGTE" => .ok (some (.compareDurations .atLeast))
  | "inside" => do
      let area ← Area.ofJson path node
      return some (.inside area)
  | "sum" => .ok (some .sum)
  | "product" => .ok (some .product)
  | "subtract" => .ok (some .subtract)
  | "divide" => .ok (some .divide)
  | "power" => .ok (some .power)
  | "integerDivide" => .ok (some .integerDivide)
  | "integerModulus" => .ok (some .integerModulus)
  | "truncate" => .ok (some .truncate)
  | "round" => .ok (some .round)
  | "roundTo" => do
      let mode ← roundingOfJson path node
      let figures ← node.integerAttribute path "figures" none
      return some (.roundTo mode figures)
  | "integerToFloat" => .ok (some .integerToFloat)
  | "gcd" => .ok (some .gcd)
  | "lcm" => .ok (some .lcm)
  | "min" => .ok (some .min)
  | "max" => .ok (some .max)
  | "mathOperator" => do
      let function ← node.requireWord MathFunction path "name"
      return some (.math function)
  | "statsOperator" => do
      let function ← node.requireWord StatsFunction path "name"
      return some (.stats function)
  | "multiple" => .ok (some .multiple)
  | "ordered" => .ok (some .ordered)
  | "containerSize" => .ok (some .containerSize)
  | "isNull" => .ok (some .isNull)
  | "index" => do
      let position ← node.integerAttribute path "n" none
      return some (.index position)
  | "fieldValue" => do
      let field ← node.requireString path "fieldIdentifier"
      return some (.fieldValue field)
  | "random" => .ok (some .random)
  | "member" => .ok (some .member)
  | "delete" => .ok (some .delete)
  | "contains" => .ok (some .contains)
  | "repeat" => do
      let count ← node.integerAttribute path "numberRepeats" none
      return some (.replicate count)
  | _ => .ok none

end Operator

namespace CustomOperator

def ofJson (path : Path) (node : Json) : Reading CustomOperator := do
  let className ← node.optionalString path "class"
  let definition ← node.optionalString path "definition"
  let markup ← node.optionalString path "markup"
  return ⟨className, definition, markup.getD ""⟩

end CustomOperator

namespace Expression

/-- The expression of a kind, when its operands have been read. -/
def assemble (path : Path) (node : Json) (kind : String) (operands : List Expression) :
    Reading Expression :=
  match kind with
  | "baseValue" => do
      let baseType ← node.requireWord BaseType path "baseType"
      let raw ← node.requireField path "value"
      let scalar ← Scalar.ofJson baseType (path.child "value") raw
      return .baseValue scalar
  | "variable" => (node.requireString path "identifier").map .valueOf
  | "correct" => (node.requireString path "identifier").map .correctOf
  | "default" => (node.requireString path "identifier").map .defaultOf
  | "null" => .ok .null
  | "mapResponse" => (node.requireString path "identifier").map .mapResponse
  | "mapResponsePoint" => (node.requireString path "identifier").map .mapResponsePoint
  | "mathConstant" => (node.requireWord MathConstant path "name").map .mathConstant
  | "randomInteger" => do
      let low ← node.integerAttribute path "min" (some 0)
      let high ← node.integerAttribute path "max" none
      let step ← node.integerAttribute path "step" (some 1)
      return .randomInteger low high step
  | "randomFloat" => do
      let low ← node.floatAttribute path "min" (some 0.0)
      let high ← node.floatAttribute path "max" none
      return .randomFloat low high
  | "customOperator" => do
      let operator ← CustomOperator.ofJson path node
      return .custom operator operands
  | kind => do
      match ← Operator.ofJson kind path node with
      | some operator => return .apply operator operands
      | none => .error (.unknownKind path "expression" kind)

mutual

/-- Reads an expression with everything below it. -/
def ofJson (path : Path) (node : Json) : Reading Expression := do
  let kind ← node.requireString path "kind"
  match found : node.field? "operands" with
  | none => assemble path node kind []
  | some (.array items) =>
      have := Json.sizeOf_items_lt found
      let operands ← ofItems (path.child "operands") 0 items
      assemble path node kind operands
  | some _ => Reading.invalid (path.child "operands") .expectedArray
  termination_by sizeOf node

/-- Reads expressions one after another, the first of them at the given position. -/
def ofItems (path : Path) (position : Nat) (items : List Json) :
    Reading (List Expression) :=
  match items with
  | [] => .ok []
  | item :: rest => do
      let operand ← ofJson (path.item position) item
      let operands ← ofItems path (position + 1) rest
      return operand :: operands
  termination_by sizeOf items

end

end Expression

end Assessment
