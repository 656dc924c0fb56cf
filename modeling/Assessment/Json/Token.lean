import Assessment.Json

/-!
# The tokens of JSON text

A text is cut into punctuation and literals.  Strings are unescaped and numbers are
converted here, so that the reader of whole values only sees tokens.
-/

namespace Assessment.Json

inductive Token where
  | beginArray
  | endArray
  | beginObject
  | endObject
  | colon
  | comma
  | literal (value : Json)

namespace Token

/-- The four characters that may stand between tokens. -/
def isSpace (c : Char) : Bool :=
  c == ' ' || c == '\n' || c == '\t' || c == '\r'

def hexDigit? (c : Char) : Option Nat :=
  if '0' ≤ c && c ≤ '9' then some (c.toNat - '0'.toNat)
  else if 'a' ≤ c && c ≤ 'f' then some (c.toNat - 'a'.toNat + 10)
  else if 'A' ≤ c && c ≤ 'F' then some (c.toNat - 'A'.toNat + 10)
  else none

/-- The number written by four hexadecimal digits. -/
def hexQuad? (a b c d : Char) : Option Nat := do
  let a ← hexDigit? a
  let b ← hexDigit? b
  let c ← hexDigit? c
  let d ← hexDigit? d
  return ((a * 16 + b) * 16 + c) * 16 + d

def isHighSurrogate (code : Nat) : Bool :=
  0xD800 ≤ code && code ≤ 0xDBFF

def isLowSurrogate (code : Nat) : Bool :=
  0xDC00 ≤ code && code ≤ 0xDFFF

/-- The character after a backslash that stands for one character. -/
def escaped? (c : Char) : Option Char :=
  match c with
  | '"' => some '"'
  | '\\' => some '\\'
  | '/' => some '/'
  | 'b' => some (Char.ofNat 8)
  | 'f' => some (Char.ofNat 12)
  | 'n' => some '\n'
  | 'r' => some '\r'
  | 't' => some '\t'
  | _ => none

/-- Reads the rest of a string up to its closing quote; `done` holds the characters
before, the last one first.  Surrogates have to come in pairs. -/
def readString? (done : List Char) : List Char → Option (List Char × List Char)
  | [] => none
  | '"' :: rest => some (done.reverse, rest)
  | '\\' :: 'u' :: a :: b :: c :: d :: rest =>
      match hexQuad? a b c d with
      | none => none
      | some code =>
          if isLowSurrogate code then none
          else if isHighSurrogate code then
            match rest with
            | '\\' :: 'u' :: e :: f :: g :: h :: tail =>
                match hexQuad? e f g h with
                | none => none
                | some low =>
                    if isLowSurrogate low then
                      let whole := 0x10000 + (code - 0xD800) * 0x400 + (low - 0xDC00)
                      readString? (Char.ofNat whole :: done) tail
                    else none
            | _ => none
          else readString? (Char.ofNat code :: done) rest
  | '\\' :: c :: rest =>
      match escaped? c with
      | some plain => readString? (plain :: done) rest
      | none => none
  | c :: rest => if c == '\\' || c.toNat < 0x20 then none else readString? (c :: done) rest
  termination_by text => text.length

theorem length_of_readString? {done text value rest : List Char}
    (read : readString? done text = some (value, rest)) : rest.length < text.length := by
  fun_induction readString? done text <;> simp_all <;> omega

def isNumberChar (c : Char) : Bool :=
  Decimal.isDigit c || c == '+' || c == '-' || c == '.' || c == 'e' || c == 'E'

def isLetter (c : Char) : Bool :=
  'a' ≤ c && c ≤ 'z'

/-- The greatest significand that is gathered before further digits are dropped. -/
def maximumSignificand : Nat := Nat.pow 2 64 - 1

/-- Digits gathered into a significand of 64 bits, and the power of ten it has to be
scaled by. -/
structure Gathered where
  significand : Nat
  power : Int

/-- Appends digits of the whole part.  Once one does not fit, it and all after it
only count as places. -/
def gatherWhole : Gathered → Bool → List Char → Gathered
  | g, _, [] => g
  | g, full, c :: rest =>
      let next := g.significand * 10 + (c.toNat - '0'.toNat)
      if full || maximumSignificand < next then
        gatherWhole { g with power := g.power + 1 } true rest
      else gatherWhole { g with significand := next } false rest

/-- Appends digits behind the point until one does not fit. -/
def gatherPlaces : Gathered → List Char → Gathered
  | g, [] => g
  | g, c :: rest =>
      let next := g.significand * 10 + (c.toNat - '0'.toNat)
      if maximumSignificand < next then g
      else gatherPlaces ⟨next, g.power - 1⟩ rest

/-- The greatest power of ten that is applied in one step. -/
def greatestPower : Nat := 308

def powerOfTen (n : Nat) : Float :=
  Float.ofScientific 1 false n

/-- Scales the significand by its power of ten, by the greatest power as often as
needed and then by the rest, rounding after each step. -/
def scale (limit : Nat) (value : Float) (power : Int) : Option Float :=
  if power.natAbs ≤ greatestPower then
    if 0 ≤ power then
      let scaled := value * powerOfTen power.natAbs
      if scaled.isFinite then some scaled else none
    else some (value / powerOfTen power.natAbs)
  else if value == 0.0 then some value
  else if 0 ≤ power then none
  else
    match limit with
    | 0 => some 0.0
    | limit + 1 => scale limit (value / powerOfTen greatestPower) (power + greatestPower)

/-- The float with the gathered digits; `none` if it is too large for a double. -/
def Gathered.toFloat? (negative : Bool) (g : Gathered) : Option Float :=
  (scale 4 (Float.ofNat g.significand) g.power).map fun x => if negative then -x else x

/-- A number without fraction and exponent: whole if it lies between `-2 ^ 63` and
`2 ^ 64 - 1`, a float otherwise.  Minus zero is a float. -/
def wholeNumber? (negative : Bool) (digits : List Char) : Option Json :=
  let value := Decimal.ofDigits digits
  if negative then
    if value == 0 then some (.float (-0.0))
    else if value ≤ Nat.pow 2 63 then some (.integer (-(value : Int)))
    else ((gatherWhole ⟨0, 0⟩ false digits).toFloat? true).map Json.float
  else if value ≤ maximumSignificand then some (.integer value)
  else ((gatherWhole ⟨0, 0⟩ false digits).toFloat? false).map Json.float

/-- An exponent: the letter `e`, an optional sign, and digits. -/
def exponent? : List Char → Option Int
  | [] => some 0
  | text => Decimal.readExponent? text

/-- Converts a maximal run of number characters by the grammar of JSON numbers. -/
def number? (text : List Char) : Option Json :=
  let (negative, body) :=
    match text with
    | '-' :: rest => (true, rest)
    | _ => (false, text)
  let whole := body.takeWhile Decimal.isDigit
  let rest := body.dropWhile Decimal.isDigit
  let leadingZero := match whole with
    | '0' :: _ :: _ => true
    | _ => false
  if whole.isEmpty || leadingZero then none
  else
    match rest with
    | [] => wholeNumber? negative whole
    | '.' :: afterPoint =>
        let places := afterPoint.takeWhile Decimal.isDigit
        if places.isEmpty then none
        else do
          let exponent ← exponent? (afterPoint.dropWhile Decimal.isDigit)
          let gathered := gatherPlaces (gatherWhole ⟨0, 0⟩ false whole) places
          let x ← Gathered.toFloat? negative
            { gathered with power := gathered.power + exponent }
          return .float x
    | afterWhole => do
        let exponent ← exponent? afterWhole
        let gathered := gatherWhole ⟨0, 0⟩ false whole
        let x ← Gathered.toFloat? negative
          { gathered with power := gathered.power + exponent }
        return .float x

def word? (letters : List Char) : Option Json :=
  if letters == ['n', 'u', 'l', 'l'] then some .null
  else if letters == ['t', 'r', 'u', 'e'] then some (.bool true)
  else if letters == ['f', 'a', 'l', 's', 'e'] then some (.bool false)
  else none

def punctuation? (c : Char) : Option Token :=
  match c with
  | '[' => some .beginArray
  | ']' => some .endArray
  | '\x7b' => some .beginObject
  | '\x7d' => some .endObject
  | ':' => some .colon
  | ',' => some .comma
  | _ => none

/-- The tokens of a text; `none` where a character can begin no token. -/
def ofText? : List Char → Option (List Token)
  | [] => some []
  | c :: rest =>
      if isSpace c then ofText? rest
      else if c == '"' then
        match read : readString? [] rest with
        | none => none
        | some (value, after) =>
            have : after.length < rest.length := length_of_readString? read
            (ofText? after).map (.literal (.string (String.ofList value)) :: ·)
      else if isNumberChar c then
        match number? (c :: rest.takeWhile isNumberChar) with
        | none => none
        | some value =>
            have : (rest.dropWhile isNumberChar).length ≤ rest.length :=
              (List.dropWhile_suffix _).length_le
            (ofText? (rest.dropWhile isNumberChar)).map (.literal value :: ·)
      else if isLetter c then
        match word? (c :: rest.takeWhile isLetter) with
        | none => none
        | some value =>
            have : (rest.dropWhile isLetter).length ≤ rest.length :=
              (List.dropWhile_suffix _).length_le
            (ofText? (rest.dropWhile isLetter)).map (.literal value :: ·)
      else
        match punctuation? c with
        | none => none
        | some token => (ofText? rest).map (token :: ·)
  termination_by text => text.length

end Token

end Assessment.Json
