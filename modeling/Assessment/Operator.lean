import Assessment.Area
import Assessment.Attribute
import Assessment.ModelError
import Assessment.Number.Figures

/-!
# Operators

The built-in operators with their attributes.  Operands are not part of an operator:
an expression applies an operator to a list of them.
-/

namespace Assessment

inductive MathFunction where
  | sin
  | cos
  | tan
  | sec
  | csc
  | cot
  | asin
  | acos
  | atan
  | atan2
  | asec
  | acsc
  | acot
  | sinh
  | cosh
  | tanh
  | sech
  | csch
  | coth
  | log
  | ln
  | exp
  | abs
  | signum
  | floor
  | ceil
  | toDegrees
  | toRadians
  deriving DecidableEq, Repr

namespace MathFunction

def all : List MathFunction :=
  [sin, cos, tan, sec, csc, cot, asin, acos, atan, atan2, asec, acsc, acot, sinh, cosh,
    tanh, sech, csch, coth, log, ln, exp, abs, signum, floor, ceil, toDegrees, toRadians]

def name : MathFunction → String
  | sin => "sin"
  | cos => "cos"
  | tan => "tan"
  | sec => "sec"
  | csc => "csc"
  | cot => "cot"
  | asin => "asin"
  | acos => "acos"
  | atan => "atan"
  | atan2 => "atan2"
  | asec => "asec"
  | acsc => "acsc"
  | acot => "acot"
  | sinh => "sinh"
  | cosh => "cosh"
  | tanh => "tanh"
  | sech => "sech"
  | csch => "csch"
  | coth => "coth"
  | log => "log"
  | ln => "ln"
  | exp => "exp"
  | abs => "abs"
  | signum => "signum"
  | floor => "floor"
  | ceil => "ceil"
  | toDegrees => "toDegrees"
  | toRadians => "toRadians"

/-- How many operands the function takes. -/
def arity : MathFunction → Nat
  | atan2 => 2
  | _ => 1

instance : Vocabulary MathFunction where
  title := "MathFunction"
  all := all
  word := name

end MathFunction

inductive StatsFunction where
  | mean
  | sampleVariance
  | sampleSD
  | popVariance
  | popSD
  deriving DecidableEq, Repr

namespace StatsFunction

def all : List StatsFunction :=
  [mean, sampleVariance, sampleSD, popVariance, popSD]

def name : StatsFunction → String
  | mean => "mean"
  | sampleVariance => "sampleVariance"
  | sampleSD => "sampleSD"
  | popVariance => "popVariance"
  | popSD => "popSD"

instance : Vocabulary StatsFunction where
  title := "StatsFunction"
  all := all
  word := name

end StatsFunction

inductive MathConstant where
  | pi
  | e
  deriving DecidableEq, Repr

namespace MathConstant

def name : MathConstant → String
  | pi => "pi"
  | e => "e"

def value : MathConstant → Float
  | pi => 3.141592653589793
  | e => 2.718281828459045

instance : Vocabulary MathConstant where
  title := "MathConstant"
  all := [pi, e]
  word := name

end MathConstant

instance : Vocabulary RoundingMode where
  title := "RoundingMode"
  all := [.significantFigures, .decimalPlaces]
  word := RoundingMode.name

/-- How the `equal` operator treats small differences. -/
inductive ToleranceMode where
  | exact
  | absolute
  | relative
  deriving DecidableEq, Repr

namespace ToleranceMode

def name : ToleranceMode → String
  | .exact => "exact"
  | .absolute => "absolute"
  | .relative => "relative"

instance : Vocabulary ToleranceMode where
  title := "ToleranceMode"
  all := [.exact, .absolute, .relative]
  word := name

end ToleranceMode

/-- The attributes of the `equal` operator: how far below and above the second operand
the first one may lie, and whether the ends of that interval belong to it. -/
structure Equality where
  mode : ToleranceMode
  tolerance : Option (Attribute Float × Attribute Float)
  includeLower : Bool
  includeUpper : Bool
  deriving DecidableEq, Repr

namespace Equality

/-- One tolerance counts on both sides.  Modes that are not exact need one. -/
def make (mode : ToleranceMode) (tolerances : List (Attribute Float))
    (includeLower includeUpper : Bool) : Except ModelError Equality :=
  match tolerances with
  | [] =>
      if mode = .exact then .ok ⟨mode, none, includeLower, includeUpper⟩
      else .error (.missingTolerance mode.name)
  | [both] => .ok ⟨mode, some (both, both), includeLower, includeUpper⟩
  | [below, above] => .ok ⟨mode, some (below, above), includeLower, includeUpper⟩
  | more => .error (.tooManyTolerances more.length)

end Equality

/-- The order relations between numbers. -/
inductive NumericOrder where
  | lt
  | gt
  | lte
  | gte
  deriving DecidableEq, Repr

def NumericOrder.name : NumericOrder → String
  | .lt => "lt"
  | .gt => "gt"
  | .lte => "lte"
  | .gte => "gte"

/-- The order relations between durations. -/
inductive DurationOrder where
  | shorter
  | atLeast
  deriving DecidableEq, Repr

def DurationOrder.name : DurationOrder → String
  | .shorter => "durationLT"
  | .atLeast => "durationGTE"

/-- The built-in operators and their attributes. -/
inductive Operator where
  | and
  | or
  | not
  | anyN (least most : Attribute Int64)
  | identical
  | stringMatch (caseSensitive substring : Bool)
  | patternMatch (pattern : Attribute String)
  | substring (caseSensitive : Bool)
  | equal (equality : Equality)
  | equalRounded (mode : RoundingMode) (figures : Attribute Int64)
  | compare (order : NumericOrder)
  | compareDurations (order : DurationOrder)
  | inside (area : Area)
  | sum
  | product
  | subtract
  | divide
  | power
  | integerDivide
  | integerModulus
  | truncate
  | round
  | roundTo (mode : RoundingMode) (figures : Attribute Int64)
  | integerToFloat
  | gcd
  | lcm
  | min
  | max
  | math (function : MathFunction)
  | stats (function : StatsFunction)
  | multiple
  | ordered
  | containerSize
  | isNull
  | index (position : Attribute Int64)
  | fieldValue (field : String)
  | random
  | member
  | delete
  | contains
  | replicate (count : Attribute Int64)
  deriving DecidableEq, Repr

namespace Operator

/-- The name of the operator's element in markup. -/
def name : Operator → String
  | .and => "and"
  | .or => "or"
  | .not => "not"
  | .anyN .. => "anyN"
  | .identical => "match"
  | .stringMatch .. => "stringMatch"
  | .patternMatch _ => "patternMatch"
  | .substring _ => "substring"
  | .equal _ => "equal"
  | .equalRounded .. => "equalRounded"
  | .compare order => order.name
  | .compareDurations order => order.name
  | .inside _ => "inside"
  | .sum => "sum"
  | .product => "product"
  | .subtract => "subtract"
  | .divide => "divide"
  | .power => "power"
  | .integerDivide => "integerDivide"
  | .integerModulus => "integerModulus"
  | .truncate => "truncate"
  | .round => "round"
  | .roundTo .. => "roundTo"
  | .integerToFloat => "integerToFloat"
  | .gcd => "gcd"
  | .lcm => "lcm"
  | .min => "min"
  | .max => "max"
  | .math _ => "mathOperator"
  | .stats _ => "statsOperator"
  | .multiple => "multiple"
  | .ordered => "ordered"
  | .containerSize => "containerSize"
  | .isNull => "isNull"
  | .index _ => "index"
  | .fieldValue _ => "fieldValue"
  | .random => "random"
  | .member => "member"
  | .delete => "delete"
  | .contains => "contains"
  | .replicate _ => "repeat"

/-- The variables that attributes of the operator refer to. -/
def references : Operator → List String
  | .anyN least most => least.references ++ most.references
  | .patternMatch pattern => pattern.references
  | .equal equality =>
      match equality.tolerance with
      | some (below, above) => below.references ++ above.references
      | none => []
  | .equalRounded _ figures | .roundTo _ figures => figures.references
  | .index position => position.references
  | .replicate count => count.references
  | _ => []

end Operator

end Assessment
