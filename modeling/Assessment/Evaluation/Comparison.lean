import Assessment.Evaluation.Attribute
import Assessment.Evaluation.Arithmetic
import Assessment.Text.Search

/-!
# Comparisons

Comparisons of texts, numbers, durations, points and whole values.
-/

namespace Assessment

namespace Value

/-- The text of a single value. -/
def string? (value : Value) : Option String :=
  value.single?.bind Scalar.string?

def duration? (value : Value) : Option Duration :=
  value.single?.bind Scalar.duration?

/-- The points of a single value or container. -/
def points (value : Value) : List Point :=
  value.scalars.filterMap Scalar.point?

end Value

namespace Comparison

/-- Whether two values are the same; only values of one type can be compared. -/
def identical (a b : Value) : Evaluated Value :=
  if a.cardinality? = b.cardinality? ∧ a.baseType? = b.baseType? then
    .ok (.boolean (a.equal b))
  else .error (.invalidOperand "match" (.incomparable a.typeName b.typeName))

/-- The form of a text that is compared. -/
def folded (caseSensitive : Bool) (text : String) : List Char :=
  if caseSensitive then text.toList else Text.lower text.toList

def sameText (caseSensitive : Bool) (a b : String) : Bool :=
  folded caseSensitive a == folded caseSensitive b

/-- Whether the first text occurs in the second one. -/
def occurs (caseSensitive : Bool) (needle text : String) : Bool :=
  Text.occursIn (folded caseSensitive needle) (folded caseSensitive text)

/-! ## Numbers -/

def holds (order : NumericOrder) (a b : Float) : Bool :=
  match order with
  | .lt => a < b
  | .gt => b < a
  | .lte => a ≤ b
  | .gte => b ≤ a

/-- Whether a number lies in an interval, each end of which may belong to it or not. -/
def between (lower upper : Float) (includeLower includeUpper : Bool) (x : Float) : Bool :=
  (if includeLower then lower ≤ x else lower < x) &&
    if includeUpper then x ≤ upper else x < upper

/-- Whether `a` lies within the tolerances around `b`. -/
def withinTolerance (equality : Equality) (below above a b : Float) : Bool :=
  match equality.mode with
  | .exact => a == b
  | .absolute =>
      between (b - below) (b + above) equality.includeLower equality.includeUpper a
  | .relative =>
      between (b - below * b.abs) (b + above * b.abs) equality.includeLower
        equality.includeUpper a

/-- Equality up to tolerances; without tolerances it is exact. -/
def equal (store : Store) (equality : Equality) (a b : Float) : Evaluated Value :=
  match equality.tolerance with
  | none => .ok (.boolean (a == b))
  | some (below, above) => do
      let below ← below.resolveFloat "equal" "tolerance" store
      let above ← above.resolveFloat "equal" "tolerance" store
      return .boolean (withinTolerance equality below above a b)

/-- Equality of the rounded numbers, NULL unless both are finite. -/
def equalRounded (mode : RoundingMode) (figures : Int64) (a b : Float) :
    Evaluated Value := do
  let a ← Arithmetic.roundNumber "equalRounded" mode figures a
  let b ← Arithmetic.roundNumber "equalRounded" mode figures b
  match a, b with
  | some a, some b => return .boolean (a == b)
  | _, _ => return .null

def durationsHold (order : DurationOrder) (a b : Duration) : Bool :=
  match order with
  | .shorter => a.shorterThan b
  | .atLeast => a.atLeast b

/-- Whether one of the points lies in the area. -/
def hits (area : Area) (points : List Point) : Bool :=
  points.any area.contains

end Comparison

end Assessment
