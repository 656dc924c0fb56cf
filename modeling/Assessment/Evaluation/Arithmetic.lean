import Assessment.Evaluation.Error
import Assessment.Mapping
import Assessment.Operator

/-!
# Arithmetic

Integers are computed exactly and a result of more than 64 bits is an overflow.  As
soon as one operand is a float, all of them count as floats; a result that is
infinite or not a number is NULL.
-/

namespace Assessment

namespace Value

/-- The integer of a single value. -/
def integer? (value : Value) : Option Int64 :=
  value.single?.bind Scalar.integer?

/-- The number of a single value. -/
def number? (value : Value) : Option Float :=
  value.single?.bind Scalar.number?

/-- Results that are not finite are NULL. -/
def ofFinite (x : Float) : Value :=
  if x.isFinite then .float x else .null

/-- An integer if it has at most 64 bits. -/
def ofInteger? (operator : String) (n : Int) : Evaluated Value :=
  match Integer.ofInt? n with
  | some i => .ok (.integer i)
  | none => .error (.overflow operator)

end Value

namespace Arithmetic

/-- Combines integers from the left; the first partial result of more than 64 bits is
an overflow. -/
def foldIntegers (operator : String) (combine : Int → Int → Int) (start : Int64)
    (integers : List Int64) : Evaluated Value :=
  match integers.foldlM (fun total i => Integer.ofInt? (combine total.toInt i.toInt)) start with
  | some total => .ok (.integer total)
  | none => .error (.overflow operator)

def sumIntegers (integers : List Int64) : Evaluated Value :=
  foldIntegers "sum" (· + ·) 0 integers

def multiplyIntegers (integers : List Int64) : Evaluated Value :=
  foldIntegers "product" (· * ·) 1 integers

/-- The product of floats from the left. -/
def multiplyFloats (values : List Float) : Float :=
  values.foldl (· * ·) 1.0

def subtractIntegers (a b : Int64) : Evaluated Value :=
  Value.ofInteger? "subtract" (a.toInt - b.toInt)

/-- Division by zero is NULL. -/
def divide (a b : Float) : Value :=
  if b == 0.0 then .null else .ofFinite (a / b)

/-- The quotient rounded towards minus infinity. -/
def integerDivide (a b : Int64) : Evaluated Value :=
  if b = 0 then .ok .null
  else Value.ofInteger? "integerDivide" (a.toInt.fdiv b.toInt)

/-- The remainder that belongs to `integerDivide`, with the sign of the divisor.  It
overflows whenever the quotient does. -/
def integerModulus (a b : Int64) : Evaluated Value :=
  if b = 0 then .ok .null
  else if Integer.fits (a.toInt.fdiv b.toInt) then
    Value.ofInteger? "integerModulus" (a.toInt.fmod b.toInt)
  else .error (.overflow "integerModulus")

/-! ## Whole numbers -/

/-- The integer that `part` takes out of a float, if it has at most 64 bits. -/
def whole (part : Dyadic → Int) (x : Float) : Value :=
  match (Dyadic.ofFloat? x).bind fun parts => Integer.ofInt? (part parts) with
  | some i => .integer i
  | none => .null

def truncate (x : Float) : Value :=
  whole Dyadic.truncate x

/-- The nearest integer; halves are rounded up. -/
def round (x : Float) : Value :=
  whole Dyadic.floor (x + 0.5)

/-! ## Figures -/

/-- The number rounded to figures, `none` if it is not finite. -/
def roundNumber (operator : String) (mode : RoundingMode) (figures : Int64) (x : Float) :
    Evaluated (Option Float) :=
  if figures.toInt < mode.minimum then
    .error (.invalidAttribute operator "figures"
      (.tooFewFigures mode.name mode.minimum figures))
  else .ok (Real64.roundTo? mode figures.toInt.toNat x)

/-- The number rounded to figures as a value, NULL if it is not finite. -/
def roundTo (mode : RoundingMode) (figures : Int64) (x : Float) : Evaluated Value := do
  match ← roundNumber "roundTo" mode figures x with
  | some rounded => return .float rounded
  | none => return .null

/-! ## Lists of numbers -/

def magnitudes (integers : List Int64) : List Nat :=
  integers.map fun i => i.toInt.natAbs

def gcd (integers : List Int64) : Evaluated Value :=
  Value.ofInteger? "gcd" ((magnitudes integers).foldl Nat.gcd 0 : Nat)

/-- The least common multiple; zero if an operand is zero. -/
def lcm (integers : List Int64) : Evaluated Value :=
  Value.ofInteger? "lcm" ((magnitudes integers).foldl Nat.lcm 1 : Nat)

/-- The least number of a list, NULL if the list is empty. -/
def leastInteger : List Int64 → Value
  | [] => .null
  | i :: rest => .integer (rest.foldl (fun least j => if j < least then j else least) i)

/-- The greatest number of a list, NULL if the list is empty. -/
def greatestInteger : List Int64 → Value
  | [] => .null
  | i :: rest => .integer (rest.foldl (fun most j => if most < j then j else most) i)

def leastFloat (values : List Float) : Value :=
  .ofFinite (values.foldl Real64.lesser Real64.infinity)

def greatestFloat (values : List Float) : Value :=
  .ofFinite (values.foldl Real64.greater (-Real64.infinity))

/-! ## Functions -/

def halfPi : Float := 1.5707963267948966

def degreesPerRadian : Float := 57.29577951308232

def radiansPerDegree : Float := 0.017453292519943295

/-- The sign of a number as an integer; NaN has none. -/
def signum (x : Float) : Value :=
  if x.isNaN then .null
  else if 0.0 < x then .integer 1
  else if x < 0.0 then .integer (-1)
  else .integer 0

/-- The magnitude of an integer, NULL if it has more than 64 bits. -/
def absInteger (i : Int64) : Value :=
  match Integer.ofInt? i.toInt.natAbs with
  | some magnitude => .integer magnitude
  | none => .null

/-- A function of one number.  The inverse of the cotangent takes zero to a right
angle. -/
def apply (function : MathFunction) (x : Float) : Value :=
  match function with
  | .sin => .ofFinite x.sin
  | .cos => .ofFinite x.cos
  | .tan => .ofFinite x.tan
  | .sec => .ofFinite (1.0 / x.cos)
  | .csc => .ofFinite (1.0 / x.sin)
  | .cot => .ofFinite (1.0 / x.tan)
  | .asin => .ofFinite x.asin
  | .acos => .ofFinite x.acos
  | .atan => .ofFinite x.atan
  | .atan2 => .null
  | .asec => .ofFinite (1.0 / x).acos
  | .acsc => .ofFinite (1.0 / x).asin
  | .acot => .ofFinite (if x == 0.0 then halfPi else (1.0 / x).atan)
  | .sinh => .ofFinite x.sinh
  | .cosh => .ofFinite x.cosh
  | .tanh => .ofFinite x.tanh
  | .sech => .ofFinite (1.0 / x.cosh)
  | .csch => .ofFinite (1.0 / x.sinh)
  | .coth => .ofFinite (1.0 / x.tanh)
  | .log => .ofFinite x.log10
  | .ln => .ofFinite x.log
  | .exp => .ofFinite x.exp
  | .abs => .ofFinite x.abs
  | .signum => signum x
  | .floor => whole Dyadic.floor x
  | .ceil => whole Dyadic.ceiling x
  | .toDegrees => .ofFinite (x * degreesPerRadian)
  | .toRadians => .ofFinite (x * radiansPerDegree)

/-! ## Statistics -/

def mean (values : List Float) : Float :=
  sumFloats values / Float.ofNat values.length

/-- The sum of the squared distances from the mean. -/
def squares (values : List Float) : Float :=
  sumFloats (values.map fun x => (x - mean values) * (x - mean values))

/-- A statistic of a list of numbers.  No list has one that is empty, and statistics of
samples need two numbers. -/
def statistic (function : StatsFunction) (values : List Float) : Value :=
  let count := Float.ofNat values.length
  if values.isEmpty then .null
  else
    match function with
    | .mean => .ofFinite (mean values)
    | .popVariance => .ofFinite (squares values / count)
    | .popSD => .ofFinite (squares values / count).sqrt
    | .sampleVariance =>
        if values.length < 2 then .null else .ofFinite (squares values / (count - 1.0))
    | .sampleSD =>
        if values.length < 2 then .null else .ofFinite (squares values / (count - 1.0)).sqrt

end Arithmetic

end Assessment
