import Assessment.Number.Dyadic
import Assessment.Number.Integer

/-!
# Decimals

A decimal is a whole number times a power of ten.  `Dyadic.shortest` finds the
decimal with the fewest digits that lies closer to a double than to any other,
`Decimal.write` lays a decimal out as text, and `Decimal.read?` and
`Decimal.toFloat` go the other way.
-/

namespace Assessment

/-- The number `coefficient * 10 ^ exponent`, with a sign of its own. -/
structure Decimal where
  negative : Bool
  coefficient : Nat
  exponent : Int
  deriving DecidableEq, Repr

namespace Decimal

/-- How many decimal digits a number has; zero has one. -/
def digitCount (n : Nat) : Nat :=
  (Integer.digits n).length

/-- The power of ten of the first digit. -/
def leading (d : Decimal) : Int :=
  d.exponent + digitCount d.coefficient - 1

/-- Trailing zeros of the coefficient moved into the exponent, at most `limit` of
them. -/
def stripZeros : Nat → Nat → Int → Nat × Int
  | 0, coefficient, exponent => (coefficient, exponent)
  | limit + 1, coefficient, exponent =>
      if coefficient % 10 == 0 then stripZeros limit (coefficient / 10) (exponent + 1)
      else (coefficient, exponent)

end Decimal

/-- The power of ten of the first digit of the positive fraction `top / bottom`. -/
def leadingPower (top bottom : Nat) : Int :=
  if bottom ≤ top then (Decimal.digitCount (top / bottom) : Int) - 1
  else
    let count := Decimal.digitCount (bottom / top)
    if top * Nat.pow 10 (count - 1) == bottom then 1 - (count : Int) else -(count : Int)

namespace Dyadic

/-- The numbers closer to a double than to its neighbours, as fractions of one
denominator.  Its ends belong to it when the significand is even. -/
structure Rounding where
  lower : Nat
  value : Nat
  upper : Nat
  denominator : Nat
  closed : Bool

/-- Below a power of two the doubles lie twice as dense, so the lower neighbour is
then half as far away. -/
def rounding (x : Dyadic) : Rounding :=
  let quarters := 4 * x.significand
  let below := if x.significand == Nat.pow 2 52 && leastExponent < x.exponent then 1 else 2
  let power := x.exponent - 2
  let scale := if 0 ≤ power then Nat.pow 2 power.toNat else 1
  let denominator := if 0 ≤ power then 1 else Nat.pow 2 (-power).toNat
  { lower := (quarters - below) * scale
    value := quarters * scale
    upper := (quarters + 2) * scale
    denominator
    closed := x.significand % 2 == 0 }

/-- The multiple of `10 ^ power` nearest to the double among those that read back
as it; the even one of two equally near. -/
def Rounding.onGrid? (r : Rounding) (power : Int) : Option Nat :=
  let up := if 0 ≤ power then 1 else Nat.pow 10 (-power).toNat
  let unit := r.denominator * (if 0 ≤ power then Nat.pow 10 power.toNat else 1)
  let value := r.value * up
  let inside := fun (n : Nat) =>
    if r.closed then r.lower * up ≤ n * unit && n * unit ≤ r.upper * up
    else r.lower * up < n * unit && n * unit < r.upper * up
  let low := value / unit
  let high := low + 1
  match inside low, inside high with
  | false, false => none
  | true, false => some low
  | false, true => some high
  | true, true =>
      let lowDistance := value - low * unit
      let highDistance := high * unit - value
      if lowDistance < highDistance then some low
      else if highDistance < lowDistance then some high
      else some (if low % 2 == 0 then low else high)

/-- The decimal of fewest digits that reads back as the double, and the nearest of
those.  Seventeen digits always suffice. -/
def shortest (x : Dyadic) : Decimal :=
  if x.significand == 0 then ⟨x.negative, 0, 0⟩
  else
    let r := x.rounding
    let top := leadingPower r.value r.denominator
    let found := (List.range 17).findSome? fun (extra : Nat) =>
      let power := top - (extra : Int)
      (r.onGrid? power).map fun n => (n, power)
    let (n, power) := found.getD (0, 0)
    let (coefficient, exponent) := Decimal.stripZeros 17 n power
    ⟨x.negative, coefficient, exponent⟩

end Dyadic

/-- How a decimal is laid out as text. -/
structure Layout where
  /-- Whether a number whose first digit has this power of ten is written without an
  exponent. -/
  positional : Int → Bool
  /-- Whether a positional whole number ends in `.0`. -/
  pointZero : Bool
  /-- Whether a positive exponent has a plus sign. -/
  exponentPlus : Bool

namespace Layout

/-- Positional at every size, and no point in a whole number. -/
def plain : Layout := ⟨fun _ => true, false, false⟩

/-- Positional from five places behind the point to sixteen before it. -/
def scientific : Layout := ⟨fun power => -5 ≤ power && power ≤ 15, true, true⟩

end Layout

namespace Decimal

def zeros (n : Nat) : List Char :=
  List.replicate n '0'

/-- The digits of a decimal with the point among them. -/
def writePositional (pointZero : Bool) (d : Decimal) : List Char :=
  let digits := Integer.digits d.coefficient
  if 0 ≤ d.exponent then
    digits ++ zeros d.exponent.toNat ++ (if pointZero then ['.', '0'] else [])
  else
    let places := (-d.exponent).toNat
    if places < digits.length then
      digits.take (digits.length - places) ++ '.' :: digits.drop (digits.length - places)
    else
      '0' :: '.' :: zeros (places - digits.length) ++ digits

/-- One digit before the point and the power of ten of that digit at the end. -/
def writeExponential (exponentPlus : Bool) (d : Decimal) : List Char :=
  let digits := Integer.digits d.coefficient
  let mantissa :=
    match digits with
    | first :: second :: others => first :: '.' :: second :: others
    | short => short
  let sign := if exponentPlus && 0 ≤ d.leading then ['+'] else []
  mantissa ++ 'e' :: sign ++ Integer.decimal d.leading

def write (layout : Layout) (d : Decimal) : List Char :=
  let body :=
    if d.coefficient == 0 || layout.positional d.leading then
      writePositional layout.pointZero d
    else
      writeExponential layout.exponentPlus d
  if d.negative then '-' :: body else body

/-- The double nearest to a decimal; beyond the greatest one, infinity. -/
def toFloat (d : Decimal) : Float :=
  let magnitude : Float :=
    if d.coefficient == 0 then 0.0
    else if 310 < d.leading then Real64.infinity
    else if d.leading < -330 then 0.0
    else Float.ofScientific d.coefficient (d.exponent < 0) d.exponent.natAbs
  if d.negative then -magnitude else magnitude

/-- The number written by a list of ASCII digits. -/
def ofDigits (digits : List Char) : Nat :=
  digits.foldl (fun value c => value * 10 + (c.toNat - '0'.toNat)) 0

def isDigit (c : Char) : Bool :=
  '0' ≤ c && c ≤ '9'

/-- Splits a leading sign off; `true` stands for minus. -/
def takeSign : List Char → Bool × List Char
  | '-' :: rest => (true, rest)
  | '+' :: rest => (false, rest)
  | text => (false, text)

/-- Reads an exponent: a letter `e`, an optional sign and at least one digit.  No
text at all is the exponent zero. -/
def readExponent? : List Char → Option Int
  | [] => some 0
  | c :: rest =>
      if c == 'e' || c == 'E' then
        let (negative, digits) := takeSign rest
        if digits.isEmpty || !digits.all isDigit then none
        else some (if negative then -(ofDigits digits : Int) else ofDigits digits)
      else none

/-- Reads an optional sign, digits with an optional point among or around them, and
an optional exponent. -/
def read? (text : List Char) : Option Decimal :=
  let (negative, body) := takeSign text
  let whole := body.takeWhile isDigit
  let afterWhole := body.dropWhile isDigit
  let (places, afterPoint) :=
    match afterWhole with
    | '.' :: rest => (rest.takeWhile isDigit, rest.dropWhile isDigit)
    | rest => ([], rest)
  if whole.isEmpty && places.isEmpty then none
  else
    (readExponent? afterPoint).map fun exponent =>
      ⟨negative, ofDigits (whole ++ places), exponent - places.length⟩

end Decimal

namespace Real64

/-- Finite doubles through their shortest decimal, the others by the given names. -/
def write (layout : Layout) (infinite notNumber : String) (x : Float) : String :=
  match Dyadic.ofFloat? x with
  | some parts => String.ofList (parts.shortest.write layout)
  | none =>
      if x.isNaN then notNumber
      else if x < 0.0 then "-" ++ infinite
      else infinite

/-- The notation of single float values: no exponent, and XML Schema's names for what
is not finite. -/
def text (x : Float) : String :=
  write Layout.plain "INF" "NaN" x

/-- The notation of limits in error messages. -/
def plainText (x : Float) : String :=
  write Layout.plain "inf" "NaN" x

def lowerAscii (text : List Char) : String :=
  String.ofList (text.map Char.toLower)

/-- The names of the values that are not finite, in lower case. -/
def special? (name : String) : Option Float :=
  if name == "inf" || name == "infinity" then some infinity
  else if name == "nan" then some nan
  else none

/-- Reads a decimal numeral, or a name of a value that is not finite in any case
and with an optional sign. -/
def read? (text : List Char) : Option Float :=
  let (negative, body) := Decimal.takeSign text
  match special? (lowerAscii body) with
  | some x => some (if negative then -x else x)
  | none => (Decimal.read? text).map Decimal.toFloat

end Real64

end Assessment
