import Assessment.Number.Decimal

/-!
# Rounding to figures

A number can be rounded to significant figures or to decimal places.  Numbers of
ordinary size are rounded in decimal arithmetic: the shortest decimal form of the
double, cut to 28 places, is rounded with halves away from zero.  Very large and
very small numbers are rounded from their exact binary value with halves to the
even neighbour.
-/

namespace Assessment

/-- What the figures of a rounding count. -/
inductive RoundingMode where
  | significantFigures
  | decimalPlaces
  deriving DecidableEq, Repr

namespace RoundingMode

def name : RoundingMode → String
  | .significantFigures => "significantFigures"
  | .decimalPlaces => "decimalPlaces"

/-- The least number of figures that makes sense. -/
def minimum : RoundingMode → Int
  | .significantFigures => 1
  | .decimalPlaces => 0

end RoundingMode

/-- The whole number nearest to `top / bottom`, the greater one of two. -/
def divideHalfUp (top bottom : Nat) : Nat :=
  (2 * top + bottom) / (2 * bottom)

/-- The whole number nearest to `top / bottom`, the even one of two. -/
def divideHalfEven (top bottom : Nat) : Nat :=
  let low := top / bottom
  let rest := top % bottom
  if 2 * rest < bottom then low
  else if bottom < 2 * rest then low + 1
  else if low % 2 == 0 then low else low + 1

namespace Decimal

/-- The decimal without its last `count` digits, halves away from zero.  A decimal
that becomes zero loses its sign. -/
def dropDigits (count : Nat) (d : Decimal) : Decimal :=
  let coefficient := divideHalfUp d.coefficient (Nat.pow 10 count)
  ⟨d.negative && coefficient != 0, coefficient, d.exponent + count⟩

def toPlaces (places : Nat) (d : Decimal) : Decimal :=
  if -(places : Int) ≤ d.exponent then d
  else d.dropDigits (-(places : Int) - d.exponent).toNat

def toSignificant (figures : Nat) (d : Decimal) : Decimal :=
  d.dropDigits (digitCount d.coefficient - figures)

/-- Decimal arithmetic keeps at most this many places. -/
def maximumPlaces : Nat := 28

/-- Rounds the shortest decimal form of a double. -/
def roundTo (mode : RoundingMode) (digits : Nat) (d : Decimal) : Decimal :=
  let limited := min digits maximumPlaces
  let held := (⟨d.negative && d.coefficient != 0, d.coefficient, d.exponent⟩ : Decimal).toPlaces
    maximumPlaces
  match mode with
  | .decimalPlaces => held.toPlaces limited
  | .significantFigures => held.toSignificant limited

end Decimal

namespace Dyadic

/-- The multiple of `10 ^ power` nearest to the exact value, halves to even. -/
def roundToPower (power : Int) (x : Dyadic) : Decimal :=
  let (top, bottom) := x.ratio
  let coefficient :=
    if 0 ≤ power then divideHalfEven top (bottom * Nat.pow 10 power.toNat)
    else divideHalfEven (top * Nat.pow 10 (-power).toNat) bottom
  ⟨x.negative, coefficient, power⟩

/-- At most this many digits are kept behind the point. -/
def maximumDigits : Nat := 300

/-- Rounds the exact value of a double. -/
def roundTo (mode : RoundingMode) (digits : Nat) (x : Dyadic) : Decimal :=
  match mode with
  | .decimalPlaces => x.roundToPower (-(min digits maximumDigits : Nat))
  | .significantFigures =>
      let (top, bottom) := x.ratio
      x.roundToPower (leadingPower top bottom - (min (digits - 1) maximumDigits : Nat))

end Dyadic

namespace Real64

/-- Whether decimal arithmetic holds the number: zero, or from `1e-20` to below
`1e20`. -/
def hasDecimalSize (x : Float) : Bool :=
  x == 0.0 || (1e-20 ≤ x.abs && x.abs < 1e20)

/-- The number rounded to the given count of figures; `none` if it is not finite. -/
def roundTo? (mode : RoundingMode) (digits : Nat) (x : Float) : Option Float :=
  (Dyadic.ofFloat? x).map fun parts =>
    if hasDecimalSize x then (parts.shortest.roundTo mode digits).toFloat
    else (parts.roundTo mode digits).toFloat

end Real64

end Assessment
