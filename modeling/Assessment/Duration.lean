import Assessment.Number.Integer
import Assessment.Number.Dyadic

/-!
# Durations

A duration is a signed number of microseconds, written as in ISO 8601 with
designators.  Calendar units have fixed lengths (a year is 365 days, a month 30), so
any two durations can be compared and added.

`Duration.read?` reads the notation and `Duration.text` writes its normal form.
-/

namespace Assessment

structure Duration where
  micros : Int64
  deriving DecidableEq, Repr, Inhabited

namespace Duration

/-- The units a duration is written in. -/
inductive Unit where
  | year
  | month
  | week
  | day
  | hour
  | minute
  | second
  deriving DecidableEq, Repr

namespace Unit

/-- The letter behind an amount of the unit. -/
def designator : Unit → Char
  | .year => 'Y'
  | .month => 'M'
  | .week => 'W'
  | .day => 'D'
  | .hour => 'H'
  | .minute => 'M'
  | .second => 'S'

/-- The length of a unit. -/
def micros : Unit → Nat
  | .year => 365 * 86400000000
  | .month => 30 * 86400000000
  | .week => 7 * 86400000000
  | .day => 86400000000
  | .hour => 3600000000
  | .minute => 60000000
  | .second => 1000000

/-- The units before the `T`, in the order in which they have to appear. -/
def calendar : List Unit := [.year, .month, .week, .day]

/-- The units after the `T`, in the order in which they have to appear. -/
def clock : List Unit := [.hour, .minute, .second]

end Unit

def zero : Duration := ⟨0⟩

/-- A whole number of seconds, or the longest duration if there are too many. -/
def ofSeconds (seconds : Int64) : Duration :=
  ⟨Integer.clamp (seconds.toInt * Unit.second.micros)⟩

def isNegative (d : Duration) : Bool :=
  d.micros.toInt < 0

def isZero (d : Duration) : Bool :=
  d.micros.toInt == 0

/-- The length in seconds, with a fraction. -/
def seconds (d : Duration) : Float :=
  Real64.ofInteger d.micros / 1000000.0

def shorterThan (a b : Duration) : Bool :=
  a.micros.toInt < b.micros.toInt

def atLeast (a b : Duration) : Bool :=
  b.micros.toInt ≤ a.micros.toInt

/-- Sums and differences beyond 64 bits are cut off there. -/
def add (a b : Duration) : Duration :=
  ⟨Integer.clamp (a.micros.toInt + b.micros.toInt)⟩

def subtract (a b : Duration) : Duration :=
  ⟨Integer.clamp (a.micros.toInt - b.micros.toInt)⟩

/-! ## Reading -/

def isDigit (c : Char) : Bool :=
  '0' ≤ c && c ≤ '9'

def number (digits : List Char) : Nat :=
  digits.foldl (fun value c => value * 10 + (c.toNat - '0'.toNat)) 0

/-- Cuts a text into amounts and the units behind them; `units` are those that may
still come, and `pending` are the characters of the next amount so far, the last one
first. -/
def amounts? (units : List Unit) (pending : List Char) :
    List Char → Option (List (List Char × Unit))
  | [] => if pending.isEmpty then some [] else none
  | c :: rest =>
      if isDigit c || c == '.' then amounts? units (c :: pending) rest
      else
        match units.dropWhile (fun unit => unit.designator != c) with
        | [] => none
        | unit :: later =>
            if pending.isEmpty then none
            else (amounts? later [] rest).map ((pending.reverse, unit) :: ·)

/-- The microseconds of a fraction of a second; digits after the sixth are
ignored. -/
def fractionMicros (digits : List Char) : Nat :=
  let kept := digits.take 6
  number kept * Nat.pow 10 (6 - kept.length)

/-- The length of one amount.  Only seconds may have a fraction, and their whole part
must not be empty. -/
def amountMicros? (amount : List Char) (unit : Unit) : Option Nat :=
  let whole := amount.takeWhile isDigit
  match amount.dropWhile isDigit with
  | [] => if whole.isEmpty then none else some (number whole * unit.micros)
  | _ :: fraction =>
      if unit == .second && !whole.isEmpty && fraction.all isDigit then
        some (number whole * unit.micros + fractionMicros fraction)
      else none

/-- The sum of all amounts of a text. -/
def totalMicros? (units : List Unit) (text : List Char) : Option Nat := do
  let amounts ← amounts? units [] text
  let lengths ← amounts.mapM fun (amount, unit) => amountMicros? amount unit
  return lengths.foldl (· + ·) 0

/-- The text before the first `T`, and the text after it if there is one. -/
def splitTime (text : List Char) : List Char × Option (List Char) :=
  match text.dropWhile (· != 'T') with
  | [] => (text, none)
  | _ :: time => (text.takeWhile (· != 'T'), some time)

/-- The magnitude of a duration whose sign and `P` have been taken off. -/
def magnitude? (text : List Char) : Option Nat :=
  match splitTime text with
  | (date, none) => if date.isEmpty then none else totalMicros? Unit.calendar date
  | (date, some time) =>
      if time.isEmpty then none
      else do
        let days ← totalMicros? Unit.calendar date
        let hours ← totalMicros? Unit.clock time
        return days + hours

/-- Reads an optional minus sign, a `P`, and amounts with designators of which each
comes at most once and in order, those of the clock behind a `T`.  The sum has to fit
in 64 bits before the sign is applied. -/
def read? (text : List Char) : Option Duration := do
  let (negative, body) :=
    match text with
    | '-' :: rest => (true, rest)
    | _ => (false, text)
  match body with
  | 'P' :: rest =>
      let total ← magnitude? rest
      let micros ← Integer.ofInt? total
      return ⟨if negative then -micros else micros⟩
  | _ => none

/-! ## Writing -/

/-- The magnitude of a duration in normalized units. -/
structure Parts where
  years : Nat
  months : Nat
  days : Nat
  hours : Nat
  minutes : Nat
  seconds : Nat
  micros : Nat
  deriving DecidableEq, Repr

def parts (d : Duration) : Parts :=
  let afterYears := d.micros.toInt.natAbs % Unit.year.micros
  let afterMonths := afterYears % Unit.month.micros
  let afterDays := afterMonths % Unit.day.micros
  let afterHours := afterDays % Unit.hour.micros
  let afterMinutes := afterHours % Unit.minute.micros
  { years := d.micros.toInt.natAbs / Unit.year.micros
    months := afterYears / Unit.month.micros
    days := afterMonths / Unit.day.micros
    hours := afterDays / Unit.hour.micros
    minutes := afterHours / Unit.minute.micros
    seconds := afterMinutes / Unit.second.micros
    micros := afterMinutes % Unit.second.micros }

/-- An amount with its designator; zero is left out. -/
def writeAmount (amount : Nat) (unit : Unit) : List Char :=
  if amount == 0 then [] else Integer.digits amount ++ [unit.designator]

/-- A fraction of a second as up to six digits, without the zeros at its end. -/
def fractionDigits (micros : Nat) : List Char :=
  let digits := Integer.digits micros
  let padded := List.replicate (6 - digits.length) '0' ++ digits
  (padded.reverse.dropWhile (· == '0')).reverse

def writeSeconds (p : Parts) : List Char :=
  if p.micros == 0 then writeAmount p.seconds .second
  else Integer.digits p.seconds ++ '.' :: fractionDigits p.micros ++ ['S']

def writeClock (p : Parts) : List Char :=
  writeAmount p.hours .hour ++ writeAmount p.minutes .minute ++ writeSeconds p

/-- The normal form of a duration. -/
def write (d : Duration) : List Char :=
  if d.isZero then ['P', 'T', '0', 'S']
  else
    let p := d.parts
    let clock := writeClock p
    (if d.isNegative then ['-'] else []) ++ 'P' ::
      writeAmount p.years .year ++ writeAmount p.months .month ++ writeAmount p.days .day ++
      (if clock.isEmpty then [] else 'T' :: clock)

def text (d : Duration) : String :=
  String.ofList d.write

end Duration

end Assessment
