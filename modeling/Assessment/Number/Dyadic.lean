/-!
# Doubles taken apart

A finite double is a whole number times a power of two.  Taking it apart makes its
integral part, its floor and its ceiling exact integers, and gives the decimal
algorithms something to compute with.
-/

namespace Assessment

/-- The number `significand * 2 ^ exponent`, with a sign of its own so that the two
zeros stay apart. -/
structure Dyadic where
  negative : Bool
  significand : Nat
  exponent : Int
  deriving DecidableEq, Repr

namespace Dyadic

/-- The exponent of the subnormal doubles. -/
def leastExponent : Int := -1074

/-- The finite double `x` taken apart; infinities and NaN have no parts. -/
def ofFloat? (x : Float) : Option Dyadic :=
  let bits : Nat := x.toBits.toNat
  let negative := bits / Nat.pow 2 63 == 1
  let biased : Nat := bits / Nat.pow 2 52 % Nat.pow 2 11
  let fraction : Nat := bits % Nat.pow 2 52
  if biased == 2047 then none
  else if biased == 0 then some ⟨negative, fraction, leastExponent⟩
  else some ⟨negative, fraction + Nat.pow 2 52, (biased : Int) - 1075⟩

/-- The magnitude as a fraction of natural numbers. -/
def ratio (x : Dyadic) : Nat × Nat :=
  if 0 ≤ x.exponent then (x.significand * Nat.pow 2 x.exponent.toNat, 1)
  else (x.significand, Nat.pow 2 (-x.exponent).toNat)

/-- The number without its fractional part. -/
def truncate (x : Dyadic) : Int :=
  let (top, bottom) := x.ratio
  let whole : Int := (top / bottom : Nat)
  if x.negative then -whole else whole

/-- The greatest integer that is not above the number. -/
def floor (x : Dyadic) : Int :=
  let (top, bottom) := x.ratio
  if x.negative then -(((top + (bottom - 1)) / bottom : Nat) : Int)
  else ((top / bottom : Nat) : Int)

/-- The least integer that is not below the number. -/
def ceiling (x : Dyadic) : Int :=
  let (top, bottom) := x.ratio
  if x.negative then -((top / bottom : Nat) : Int)
  else (((top + (bottom - 1)) / bottom : Nat) : Int)

end Dyadic

namespace Real64

def infinity : Float := 1.0 / 0.0

def nan : Float := 0.0 / 0.0

/-- The double nearest to an integer. -/
def ofInteger (i : Int64) : Float :=
  Float.ofInt i.toInt

/-- The greater of two doubles: the first of two equal ones, and the other one if
one of them is NaN. -/
def greater (x y : Float) : Float :=
  if x.isNaN then y else if x < y then y else x

/-- The lesser of two doubles: the first of two equal ones, and the other one if
one of them is NaN. -/
def lesser (x y : Float) : Float :=
  if x.isNaN then y else if y < x then y else x

end Real64

end Assessment
