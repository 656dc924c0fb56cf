import Assessment.Number.Decimal
import Assessment.Toml

/-!
# Scalars of TOML

Reads texts in quotes, and decides what a run of unquoted characters is: a number, a
boolean, a date or a time.
-/

namespace Assessment.TomlText

/-- Whether a character may stand in a comment or text: no control character but the
tabulator. -/
def isPlain (c : Char) : Bool :=
  c == '\t' || (0x20 ≤ c.toNat && c.toNat != 0x7F)

def isDigit (c : Char) : Bool :=
  '0' ≤ c && c ≤ '9'

def hexDigit? (c : Char) : Option Nat :=
  if isDigit c then some (c.toNat - '0'.toNat)
  else if 'a' ≤ c && c ≤ 'f' then some (c.toNat - 'a'.toNat + 10)
  else if 'A' ≤ c && c ≤ 'F' then some (c.toNat - 'A'.toNat + 10)
  else none

/-! ## Texts -/

/-- The character with the given number of hexadecimal digits. -/
def codePoint? : Nat → Nat → List Char → Option (Char × List Char)
  | 0, value, rest => if value.isValidChar then some (Char.ofNat value, rest) else none
  | count + 1, value, c :: rest => do
      let digit ← hexDigit? c
      codePoint? count (16 * value + digit) rest
  | _ + 1, _, [] => none

/-- The character that the text behind a backslash stands for. -/
def escape? : List Char → Option (Char × List Char)
  | 'b' :: rest => some ('\x08', rest)
  | 't' :: rest => some ('\t', rest)
  | 'n' :: rest => some ('\n', rest)
  | 'f' :: rest => some ('\x0c', rest)
  | 'r' :: rest => some ('\r', rest)
  | '"' :: rest => some ('"', rest)
  | '\\' :: rest => some ('\\', rest)
  | 'u' :: rest => codePoint? 4 0 rest
  | 'U' :: rest => codePoint? 8 0 rest
  | _ => none

/-- A text of one line up to its closing quote. -/
def line? (quote : Char) (escapes : Bool) : Nat → List Char → List Char →
    Option (String × List Char)
  | 0, _, _ => none
  | fuel + 1, found, text =>
      match text with
      | [] => none
      | c :: rest =>
          if c == quote then some (String.ofList found.reverse, rest)
          else if c == '\\' && escapes then do
            let (c, rest) ← escape? rest
            line? quote escapes fuel (c :: found) rest
          else if isPlain c then line? quote escapes fuel (c :: found) rest
          else none

/-- What follows a backslash that ends a line: the text behind all blanks and line
breaks. -/
def continued? (text : List Char) : Option (List Char) :=
  let isSpace := fun (c : Char) => c == ' ' || c == '\t'
  match text.dropWhile isSpace with
  | '\n' :: rest => some (rest.dropWhile fun c => isSpace c || c == '\n' || c == '\r')
  | '\r' :: '\n' :: rest => some (rest.dropWhile fun c => isSpace c || c == '\n' || c == '\r')
  | _ => none

/-- A text of several lines up to three closing quotes, before which two more may
stand.  Line breaks are line feeds in the text, however they were written. -/
def lines? (quote : Char) (escapes : Bool) : Nat → List Char → List Char →
    Option (String × List Char)
  | 0, _, _ => none
  | fuel + 1, found, text =>
      if (List.replicate 3 quote).isPrefixOf text then
        let rest := text.drop 3
        let extra := (rest.take 2).takeWhile (· == quote)
        some (String.ofList (found.reverse ++ extra), rest.drop extra.length)
      else
        match text with
        | [] => none
        | '\r' :: '\n' :: rest => lines? quote escapes fuel ('\n' :: found) rest
        | c :: rest =>
            if c == '\\' && escapes then
              match continued? rest with
              | some rest => lines? quote escapes fuel found rest
              | none => do
                  let (c, rest) ← escape? rest
                  lines? quote escapes fuel (c :: found) rest
            else if isPlain c || c == '\n' then lines? quote escapes fuel (c :: found) rest
            else none

/-- The line break that may follow three opening quotes. -/
def skipBreak : List Char → List Char
  | '\n' :: rest => rest
  | '\r' :: '\n' :: rest => rest
  | rest => rest

/-- A text in quotes of any kind. -/
def quoted? (text : List Char) : Option (String × List Char) :=
  match text with
  | '"' :: '"' :: '"' :: rest => lines? '"' true (rest.length + 1) [] (skipBreak rest)
  | '\'' :: '\'' :: '\'' :: rest => lines? '\'' false (rest.length + 1) [] (skipBreak rest)
  | '"' :: rest => line? '"' true (rest.length + 1) [] rest
  | '\'' :: rest => line? '\'' false (rest.length + 1) [] rest
  | _ => none

/-! ## Numbers -/

/-- Digits between which single underscores may stand, without the underscores. -/
def digits? (isDigit : Char → Bool) : (expectDigit : Bool) → List Char →
    Option (List Char)
  | true, [] => none
  | false, [] => some []
  | expectDigit, c :: rest =>
      if isDigit c then (digits? isDigit false rest).map (c :: ·)
      else if c == '_' && !expectDigit then digits? isDigit true rest
      else none

/-- Digits of a decimal number, without needless zeros at the start. -/
def decimal? (text : List Char) : Option (List Char) := do
  let digits ← digits? isDigit true text
  match digits with
  | '0' :: _ :: _ => none
  | _ => return digits

def splitSign : List Char → Bool × List Char
  | '-' :: rest => (true, rest)
  | '+' :: rest => (false, rest)
  | rest => (false, rest)

def valueOf (base : Nat) (digits : List Char) : Nat :=
  digits.foldl (fun value c => base * value + (hexDigit? c).getD 0) 0

/-- Digits of a base after its mark. -/
def based? (base : Nat) (text : List Char) : Option Int64 := do
  let digits ← digits? (fun c => match hexDigit? c with
    | some digit => decide (digit < base)
    | none => false) true text
  Integer.ofInt? (valueOf base digits)

def integer? (text : List Char) : Option Int64 :=
  match text with
  | '0' :: 'x' :: rest => based? 16 rest
  | '0' :: 'o' :: rest => based? 8 rest
  | '0' :: 'b' :: rest => based? 2 rest
  | _ => do
      let (negative, rest) := splitSign text
      let digits ← decimal? rest
      let value : Int := valueOf 10 digits
      Integer.ofInt? (if negative then -value else value)

/-- Whether a decimal number is so great that its double is infinite. -/
def isTooGreat (text : List Char) : Bool :=
  match Decimal.read? (text.filter (· != '_')) with
  | some number => Real64.infinity ≤ number.toFloat
  | none => false

/-- Whether a text is a float: infinity, NaN, or a number with a fraction or an
exponent.  Numbers beyond the greatest double are refused, but not those below the
least one. -/
def isFloat (text : List Char) : Bool :=
  let signed := text
  let (_, text) := splitSign text
  let isMark := fun (c : Char) => c == 'e' || c == 'E'
  let mantissa := text.takeWhile fun c => !isMark c
  let whole := mantissa.takeWhile (· != '.')
  let fraction := mantissa.drop whole.length
  let exponent := text.drop mantissa.length
  let fractionHolds := match fraction with
    | [] => true
    | _ :: digits => (digits? isDigit true digits).isSome
  let exponentHolds := match exponent with
    | [] => true
    | _ :: rest => (digits? isDigit true (splitSign rest).2).isSome
  text == ['i', 'n', 'f'] || text == ['n', 'a', 'n'] ||
    ((decimal? whole).isSome && fractionHolds && exponentHolds &&
      !(fraction.isEmpty && exponent.isEmpty) && !isTooGreat signed)

/-! ## Dates and times -/

/-- Whether a text is a number of exactly `width` digits between two bounds. -/
def isField (width least most : Nat) (text : List Char) : Bool :=
  let value := valueOf 10 text
  text.length == width && text.all isDigit && least ≤ value && value ≤ most

def isLeap (year : Nat) : Bool :=
  year % 4 == 0 && (year % 100 != 0 || year % 400 == 0)

def daysOf (year month : Nat) : Nat :=
  if month == 2 then if isLeap year then 29 else 28
  else if [4, 6, 9, 11].contains month then 30
  else 31

def isDate (text : List Char) : Bool :=
  let year := text.take 4
  let month := (text.drop 5).take 2
  let day := text.drop 8
  text[4]? == some '-' && text[7]? == some '-' && isField 4 0 9999 year &&
    isField 2 1 12 month &&
      isField 2 1 (daysOf (valueOf 10 year) (valueOf 10 month)) day

def isTime (text : List Char) : Bool :=
  let fraction := text.drop 8
  let fractionHolds := match fraction with
    | [] => true
    | '.' :: digits => !digits.isEmpty && digits.all isDigit
    | _ => false
  text[2]? == some ':' && text[5]? == some ':' && isField 2 0 23 (text.take 2) &&
    isField 2 0 59 ((text.drop 3).take 2) && isField 2 0 60 ((text.drop 6).take 2) &&
      fractionHolds

def isOffset (text : List Char) : Bool :=
  match text with
  | [] => true
  | ['Z'] => true
  | ['z'] => true
  | sign :: rest =>
      (sign == '+' || sign == '-') && rest[2]? == some ':' && isField 2 0 23 (rest.take 2) &&
        isField 2 0 59 (rest.drop 3)

/-- A date, a time, or both with or without an offset. -/
def isMoment (text : List Char) : Bool :=
  let date := text.take 10
  match text.drop 10 with
  | [] => isDate text || isTime text
  | separator :: clock =>
      let time := clock.takeWhile fun c => isDigit c || c == ':' || c == '.'
      isTime text ||
        ((separator == 'T' || separator == 't' || separator == ' ') && isDate date &&
          isTime time && isOffset (clock.drop time.length))

/-! ## Unquoted scalars -/

def isBareCharacter (c : Char) : Bool :=
  c.isAlphanum || c == '+' || c == '-' || c == '.' || c == '_' || c == ':'

/-- A run of unquoted characters.  A blank between a date and a time belongs to it. -/
def bareRun (text : List Char) : List Char × List Char :=
  let run := text.takeWhile isBareCharacter
  let rest := text.drop run.length
  match rest with
  | ' ' :: c :: _ =>
      if isDate run && isDigit c then
        let further := rest.drop 1 |>.takeWhile isBareCharacter
        (run ++ ' ' :: further, rest.drop (1 + further.length))
      else (run, rest)
  | _ => (run, rest)

/-- The value of a run of unquoted characters. -/
def bareValue? (run : List Char) : Option Toml :=
  match integer? run with
  | some value => some (.integer value)
  | none =>
      if run == ['t', 'r', 'u', 'e'] || run == ['f', 'a', 'l', 's', 'e'] || isFloat run ||
          isMoment run then
        some .other
      else none

end Assessment.TomlText
