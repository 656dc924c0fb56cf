/-!
# 64-bit integers

Integers of the value model are signed 64-bit words.  Arithmetic on them is done
in the unbounded integers and brought back by `Integer.ofInt?`, so that a result
which does not fit is always noticed.  This module also writes and reads them.
-/

namespace Assessment.Integer

/-- The least integer of 64 bits. -/
def least : Int := -9223372036854775808

/-- The greatest integer of 64 bits. -/
def greatest : Int := 9223372036854775807

/-- Whether a number can be held in 64 bits. -/
def fits (n : Int) : Bool :=
  least ≤ n && n ≤ greatest

/-- The word that holds a number, if it fits. -/
def ofInt? (n : Int) : Option Int64 :=
  if fits n then some (Int64.ofInt n) else none

/-- The word nearest to a number. -/
def clamp (n : Int) : Int64 :=
  Int64.ofInt (max least (min greatest n))

/-- The decimal digits of a number, without leading zeros. -/
def digits (n : Nat) : List Char :=
  Nat.toDigits 10 n

/-- A number in decimal notation, with a minus sign if it is negative. -/
def decimal (n : Int) : List Char :=
  if n < 0 then '-' :: digits n.natAbs else digits n.natAbs

/-- A word in decimal notation. -/
def text (i : Int64) : String :=
  String.ofList (decimal i.toInt)

/-- Why a text does not denote a word. -/
inductive Fault where
  | empty
  | invalidDigit
  | tooLarge
  | tooSmall
  deriving DecidableEq, Repr

def Fault.message : Fault → String
  | .empty => "cannot parse integer from empty string"
  | .invalidDigit => "invalid digit found in string"
  | .tooLarge => "number too large to fit in target type"
  | .tooSmall => "number too small to fit in target type"

/-- The value of an ASCII digit. -/
def digit? (c : Char) : Option Nat :=
  if '0' ≤ c && c ≤ '9' then some (c.toNat - '0'.toNat) else none

/-- Appends the digits of a text to the number `value`, on the side of zero that
`negative` names.  The first character that is no digit or takes the number out
of 64 bits decides the fault. -/
def readDigits (negative : Bool) (value : Int) : List Char → Except Fault Int
  | [] => .ok value
  | c :: rest =>
      match digit? c with
      | none => .error .invalidDigit
      | some d =>
          let next := if negative then value * 10 - d else value * 10 + d
          if fits next then readDigits negative next rest
          else .error (if negative then .tooSmall else .tooLarge)

/-- Reads an optional sign followed by at least one digit. -/
def read : List Char → Except Fault Int64
  | [] => .error .empty
  | ['+'] => .error .invalidDigit
  | ['-'] => .error .invalidDigit
  | '+' :: rest => (readDigits false 0 rest).map Int64.ofInt
  | '-' :: rest => (readDigits true 0 rest).map Int64.ofInt
  | rest => (readDigits false 0 rest).map Int64.ofInt

def read? (text : List Char) : Option Int64 :=
  (read text).toOption

theorem fits_iff {n : Int} : fits n = true ↔ least ≤ n ∧ n ≤ greatest := by
  simp [fits]

theorem toInt_ofInt?_eq {n : Int} {i : Int64} (held : ofInt? n = some i) :
    i.toInt = n := by
  unfold ofInt? at held
  split at held
  next inRange =>
    cases held
    rw [fits_iff, least, greatest] at inRange
    exact Int64.toInt_ofInt_of_le (by omega) (by omega)
  next => cases held

theorem ofInt?_toInt (i : Int64) : ofInt? i.toInt = some i := by
  have lower := Int64.le_toInt i
  have upper := Int64.toInt_lt i
  have inRange : fits i.toInt = true := by
    rw [fits_iff, least, greatest]
    omega
  simp [ofInt?, inRange]

end Assessment.Integer
