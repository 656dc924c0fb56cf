import Assessment.Pattern.PropertyName
import Assessment.Pattern.Syntax
import Assessment.Text.Blank

/-!
# Escapes

What a backslash in a pattern begins.  All readers take the text from the place where
they start and give back the rest of it.  In verbose mode blanks and comments may
stand between the parts of a pattern, and of most escapes.
-/

namespace Assessment.PatternText

/-- Skips blanks and comments; the flag tells whether the text starts in a comment. -/
def skipFiller : Bool → List Char → List Char
  | _, [] => []
  | true, c :: rest => skipFiller (c != '\n') rest
  | false, c :: rest =>
      if Text.isBlank c then skipFiller false rest
      else if c == '#' then skipFiller true rest
      else c :: rest

/-- Skips blanks and comments in verbose mode. -/
def skip (verbose : Bool) (text : List Char) : List Char :=
  if verbose then skipFiller false text else text

/-! ## Code points -/

def hexDigit? (c : Char) : Option Nat :=
  if '0' ≤ c && c ≤ '9' then some (c.toNat - '0'.toNat)
  else if 'a' ≤ c && c ≤ 'f' then some (c.toNat - 'a'.toNat + 10)
  else if 'A' ≤ c && c ≤ 'F' then some (c.toNat - 'A'.toNat + 10)
  else none

/-- The character of a code point that is not a surrogate. -/
def character? (code : Nat) : Option Char :=
  if code.isValidChar then some (Char.ofNat code) else none

/-- Exactly `count` hexadecimal digits, and fillers behind each. -/
def fixedDigits? (verbose : Bool) : Nat → Nat → List Char → Option (Nat × List Char)
  | 0, value, text => some (value, text)
  | count + 1, value, text => do
      let c :: rest := text | none
      let digit ← hexDigit? c
      fixedDigits? verbose count (16 * value + digit) (skip verbose rest)

/-- Hexadecimal digits up to a closing brace, and fillers behind each. -/
def bracedDigits? (verbose : Bool) :
    Nat → List Char → List Char → Option (List Char × List Char)
  | 0, _, _ => none
  | fuel + 1, digits, text =>
      match skip verbose text with
      | [] => none
      | '\x7d' :: rest => if digits.isEmpty then none else some (digits.reverse, rest)
      | c :: rest =>
          if (hexDigit? c).isSome then bracedDigits? verbose fuel (c :: digits) rest else none

/-- The code point behind `\x`, `\u` or `\U`: in braces, or with as many digits as the
letter asks for. -/
def codePoint? (verbose : Bool) (count : Nat) (text : List Char) :
    Option (Literal × List Char) := do
  match skip verbose text with
  | '\x7b' :: rest =>
      let (digits, rest) ← bracedDigits? verbose (rest.length + 1) [] rest
      let code := digits.foldl (fun value c => 16 * value + (hexDigit? c).getD 0) 0
      let c ← character? code
      return (.plain c, rest)
  | digits =>
      let (code, rest) ← fixedDigits? verbose count 0 digits
      let c ← character? code
      return (⟨c, count == 2⟩, rest)

/-! ## Properties -/

/-- The characters up to a closing brace, without fillers. -/
def bracedName? (verbose : Bool) :
    Nat → List Char → List Char → Option (List Char × List Char)
  | 0, _, _ => none
  | fuel + 1, name, text =>
      match skip verbose text with
      | [] => none
      | '\x7d' :: rest => some (name.reverse, rest)
      | c :: rest => bracedName? verbose fuel (c :: name) rest

/-- The property behind `\p` or `\P`: one letter, or a name in braces. -/
def property? (verbose negated : Bool) (text : List Char) : Option (ClassSyntax × List Char) := do
  match skip verbose text with
  | [] => none
  | '\x7b' :: rest =>
      let (name, rest) ← bracedName? verbose (rest.length + 1) [] rest
      let (set, flipped) ← PropertyName.braced? name
      return (.property set (negated != flipped), rest)
  | '\\' :: _ => none
  | c :: rest =>
      let set ← PropertyName.named? [c]
      return (.property set negated, rest)

/-! ## Word boundaries -/

def isWordName (c : Char) : Bool :=
  ('A' ≤ c && c ≤ 'Z') || ('a' ≤ c && c ≤ 'z') || c == '-'

/-- Letters and hyphens, and fillers behind each. -/
def wordName (verbose : Bool) : Nat → List Char → List Char → List Char × List Char
  | 0, name, text => (name.reverse, text)
  | fuel + 1, name, text =>
      match text with
      | [] => (name.reverse, [])
      | c :: rest =>
          if isWordName c then wordName verbose fuel (c :: name) (skip verbose rest)
          else (name.reverse, c :: rest)

def wordAnchor? (name : String) : Option WordAnchor :=
  match name with
  | "start" => some .start
  | "end" => some .finish
  | "start-half" => some .startHalf
  | "end-half" => some .finishHalf
  | _ => none

/-- The anchor behind `\b`.  A brace that no letter follows begins a repetition. -/
def boundary? (verbose : Bool) (text : List Char) : Option (WordAnchor × List Char) :=
  match text with
  | '\x7b' :: rest =>
      match skip verbose rest with
      | [] => none
      | c :: name =>
          if !isWordName c then some (.boundary, text)
          else
            match wordName verbose (name.length + 1) [] (c :: name) with
            | (name, '\x7d' :: rest) => (wordAnchor? (String.ofList name)).map (·, rest)
            | _ => none
  | _ => some (.boundary, text)

/-! ## All escapes -/

/-- The characters with a meaning of their own in some part of a pattern. -/
def metaCharacters : List Char :=
  ['\\', '.', '+', '*', '?', '(', ')', '|', '[', ']', '\x7b', '\x7d', '^', '$', '#', '&',
    '-', '~']

/-- The characters that stand for themselves behind a backslash: the ASCII characters
but letters, digits and angle brackets. -/
def isEscapable (c : Char) : Bool :=
  metaCharacters.contains c ||
    (c.toNat < 128 && !c.isAlphanum && c != '<' && c != '>')

/-- The control character that a letter behind a backslash means. -/
def control? : Char → Option Char
  | 'a' => some '\x07'
  | 'f' => some '\x0c'
  | 't' => some '\t'
  | 'n' => some '\n'
  | 'r' => some '\r'
  | 'v' => some '\x0b'
  | _ => none

def shorthand? : Char → Option (Shorthand × Bool)
  | 'd' => some (.digit, false)
  | 'D' => some (.digit, true)
  | 's' => some (.blank, false)
  | 'S' => some (.blank, true)
  | 'w' => some (.word, false)
  | 'W' => some (.word, true)
  | _ => none

/-- What the text behind a backslash means.  Back-references are not part of the
notation. -/
def escape? (verbose : Bool) (text : List Char) : Option (Primitive × List Char) := do
  let c :: rest := text | none
  match c with
  | 'x' => (codePoint? verbose 2 rest).map fun (found, rest) => (.literal found, rest)
  | 'u' => (codePoint? verbose 4 rest).map fun (found, rest) => (.literal found, rest)
  | 'U' => (codePoint? verbose 8 rest).map fun (found, rest) => (.literal found, rest)
  | 'p' => (property? verbose false rest).map fun (found, rest) => (.set found, rest)
  | 'P' => (property? verbose true rest).map fun (found, rest) => (.set found, rest)
  | 'b' => (boundary? verbose rest).map fun (found, rest) => (.word found, rest)
  | 'A' => return (.textStart, rest)
  | 'z' => return (.textEnd, rest)
  | 'B' => return (.word .noBoundary, rest)
  | '<' => return (.word .start, rest)
  | '>' => return (.word .finish, rest)
  | c =>
      match shorthand? c with
      | some (kind, negated) => return (.set (.shorthand kind negated), rest)
      | none =>
          match control? c with
          | some control => return (.literal (.plain control), rest)
          | none => if isEscapable c then return (.literal (.plain c), rest) else none

end Assessment.PatternText
