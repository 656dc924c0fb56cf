import Assessment.Pattern.Class
import Assessment.Text.Letter

/-!
# Tokens of patterns

A pattern's text is a list of tokens: primitives, the marks of groups and
alternatives, switches of flags, and repetitions.
-/

namespace Assessment.PatternText

/-- How a group begins: it remembers its match, maybe under a name, or it switches
flags within itself. -/
inductive GroupMark where
  | remembering (name : Option String)
  | plain (changes : List (Flag × Bool))
  deriving Repr

inductive Token where
  | primitive (part : Primitive)
  | openGroup (mark : GroupMark)
  | switch (changes : List (Flag × Bool))
  | closeGroup
  | bar
  | repetition (least : Nat) (most : Option Nat) (isLazy : Bool)
  deriving Repr

/-! ## Repetitions -/

/-- A repetition whose limits have been read, with the mark that makes it lazy. -/
def repetition (least : Nat) (most : Option Nat) : List Char → Token × List Char
  | '?' :: rest => (.repetition least most true, rest)
  | rest => (.repetition least most false, rest)

def isDigit (c : Char) : Bool :=
  '0' ≤ c && c ≤ '9'

/-- Digits and fillers behind each. -/
def digits (verbose : Bool) : Nat → List Char → List Char → List Char × List Char
  | 0, found, text => (found.reverse, text)
  | fuel + 1, found, text =>
      match text with
      | [] => (found.reverse, [])
      | c :: rest =>
          if isDigit c then digits verbose fuel (c :: found) (skip verbose rest)
          else (found.reverse, c :: rest)

/-- A number of at most 32 bits with blanks around it. -/
def count? (verbose : Bool) (text : List Char) : Option (Nat × List Char) :=
  let text := text.dropWhile Text.isBlank
  let (found, rest) := digits verbose text.length [] text
  let value := found.foldl (fun value c => 10 * value + (c.toNat - '0'.toNat)) 0
  if found.isEmpty || Nat.pow 2 32 ≤ value then none
  else some (value, skip verbose (rest.dropWhile Text.isBlank))

/-- A counted repetition behind its opening brace. -/
def counted? (verbose : Bool) (text : List Char) : Option (Token × List Char) := do
  let (least, rest) ← count? verbose (skip verbose text)
  let finish := fun (most : Option Nat) (rest : List Char) =>
    repetition least most (skip verbose rest)
  match rest with
  | '\x7d' :: rest => return finish (some least) rest
  | ',' :: rest =>
      match skip verbose rest with
      | '\x7d' :: rest => return finish none rest
      | rest =>
          let (most, rest) ← count? verbose rest
          match rest with
          | '\x7d' :: rest => if least ≤ most then return finish (some most) rest else none
          | _ => none
  | _ => none

/-! ## Groups -/

/-- Letters of flags up to a colon or closing parenthesis.  No flag and no hyphen may
occur twice, and a flag follows the hyphen. -/
def flags? : (on : Bool) → List (Flag × Bool) → List Char →
    Option (List (Flag × Bool) × List Char)
  | _, _, [] => none
  | on, changes, c :: rest =>
      if c == ':' || c == ')' then
        some (changes, c :: rest)
      else if c == '-' then
        match rest with
        | next :: _ =>
            if on && next != ':' && next != ')' then flags? false changes rest else none
        | [] => none
      else do
        let flag ← Flag.ofLetter? c
        if changes.any fun change => change.1 == flag then none
        else flags? on (changes ++ [(flag, on)]) rest

def isNameStart (c : Char) : Bool :=
  c == '_' || Text.isAlphabetic c

def isNamePart (c : Char) : Bool :=
  c == '_' || c == '.' || c == '[' || c == ']' || Text.isAlphabetic c || Text.isNumeric c

/-- The name of a group up to its closing angle bracket. -/
def groupName? (text : List Char) : Option (String × List Char) :=
  let name := text.takeWhile (· != '>')
  match name, text.drop name.length with
  | first :: further, _ :: rest =>
      if isNameStart first && further.all isNamePart then some (String.ofList name, rest)
      else none
  | _, _ => none

/-- What stands behind an opening parenthesis.  Patterns cannot look around. -/
def group? (verbose : Bool) (text : List Char) : Option (Token × List Char) :=
  match skip verbose text with
  | '?' :: '=' :: _ => none
  | '?' :: '!' :: _ => none
  | '?' :: '<' :: '=' :: _ => none
  | '?' :: '<' :: '!' :: _ => none
  | '?' :: 'P' :: '<' :: rest =>
      (groupName? rest).map fun (name, rest) => (.openGroup (.remembering (some name)), rest)
  | '?' :: '<' :: rest =>
      (groupName? rest).map fun (name, rest) => (.openGroup (.remembering (some name)), rest)
  | '?' :: rest =>
      match flags? true [] rest with
      | some (changes, ':' :: rest) => some (.openGroup (.plain changes), rest)
      | some (changes, ')' :: rest) =>
          if changes.isEmpty then none else some (.switch changes, rest)
      | _ => none
  | rest => some (.openGroup (.remembering none), rest)

/-- The first token of a text that is not empty. -/
def token? (verbose : Bool) : List Char → Option (Token × List Char)
  | [] => none
  | '(' :: rest => group? verbose rest
  | ')' :: rest => some (.closeGroup, rest)
  | '|' :: rest => some (.bar, rest)
  | '?' :: rest => some (repetition 0 (some 1) rest)
  | '*' :: rest => some (repetition 0 none rest)
  | '+' :: rest => some (repetition 1 none rest)
  | '\x7b' :: rest => counted? verbose rest
  | '[' :: rest => (class? verbose rest).map fun (written, rest) =>
      (.primitive (.set written), rest)
  | '\\' :: rest => (escape? verbose rest).map fun (part, rest) => (.primitive part, rest)
  | '.' :: rest => some (.primitive .dot, rest)
  | '^' :: rest => some (.primitive .lineStart, rest)
  | '$' :: rest => some (.primitive .lineEnd, rest)
  | c :: rest => some (.primitive (.literal (.plain c)), rest)

end Assessment.PatternText
