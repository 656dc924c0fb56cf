import Assessment.Pattern.Escape

/-!
# Bracketed classes

Reads what stands between brackets: characters, ranges, escapes, named ASCII classes,
further brackets, and the operations `&&`, `--` and `~~` between them.
-/

namespace Assessment.PatternText

/-- A named ASCII class behind its opening bracket. -/
def named? : List Char → Option (ClassSyntax × List Char)
  | ':' :: text =>
      let (negated, text) := match text with
        | '^' :: rest => (true, rest)
        | _ => (false, text)
      let name := text.takeWhile (· != ':')
      match text.drop name.length with
      | ':' :: ']' :: rest =>
          (Alphabet.ascii? (String.ofList name)).map fun set => (.ascii set negated, rest)
      | _ => none
  | _ => none

/-- One character or escape within brackets. -/
def classItem? (verbose : Bool) : List Char → Option (Primitive × List Char)
  | [] => none
  | '\\' :: rest => escape? verbose rest
  | c :: rest => some (.literal (.plain c), rest)

/-- The item as a class; anchors are not allowed within brackets. -/
def asClass? : Primitive → Option ClassSyntax
  | .literal single => some (.span single single)
  | .set written => some written
  | _ => none

def asLiteral? : Primitive → Option Literal
  | .literal single => some single
  | _ => none

/-- The character behind blanks and the mark of a comment. -/
def peekBehindBlanks (text : List Char) : Option Char :=
  match text.dropWhile Text.isBlank with
  | '#' :: rest => (rest.dropWhile Text.isBlank).head?
  | rest => rest.head?

/-- Whether the text begins with a hyphen that makes a range. -/
def startsRange (verbose : Bool) : List Char → Bool
  | '-' :: rest =>
      let next := if verbose then peekBehindBlanks rest else rest.head?
      next != some ']' && next != some '-'
  | _ => false

/-- A range or a single item. -/
def classRange? (verbose : Bool) (text : List Char) : Option (ClassSyntax × List Char) := do
  let (first, rest) ← classItem? verbose text
  let rest := skip verbose rest
  if startsRange verbose rest then
    let (last, rest) ← classItem? verbose (skip verbose (rest.drop 1))
    let first ← asLiteral? first
    let last ← asLiteral? last
    if first.character.toNat ≤ last.character.toNat then
      return (.span first last, rest)
    else none
  else
    let item ← asClass? first
    return (item, rest)

/-- Hyphens at the start of a class, which stand for themselves. -/
def leadingHyphens (verbose : Bool) : Nat → List ClassSyntax → List Char →
    List ClassSyntax × List Char
  | 0, items, text => (items, text)
  | fuel + 1, items, text =>
      match text with
      | '-' :: rest =>
          let hyphen := Literal.plain '-'
          leadingHyphens verbose fuel (.span hyphen hyphen :: items) (skip verbose rest)
      | _ => (items, text)

/-- What stands behind an opening bracket: the negation, leading hyphens, and a closing
bracket that stands for itself because the class would be empty without it. -/
def openClass (verbose : Bool) (text : List Char) : Bool × List ClassSyntax × List Char :=
  let text := skip verbose text
  let (negated, text) := match text with
    | '^' :: rest => (true, skip verbose rest)
    | _ => (false, text)
  let (items, text) := leadingHyphens verbose text.length [] text
  match items, text with
  | [], ']' :: rest =>
      let bracket := Literal.plain ']'
      (negated, [.span bracket bracket], skip verbose rest)
  | _, _ => (negated, items, text)

/-- The items read so far, the last one first, as the right side of the pending
operation. -/
def settle (pending : Option (SetOperation × ClassSyntax)) (items : List ClassSyntax) :
    ClassSyntax :=
  let right := ClassSyntax.union items.reverse
  match pending with
  | some (kind, left) => .operation kind left right
  | none => right

/-- The content of a class up to its closing bracket.  Operations group to the left and
bind less than the union of neighbouring items. -/
def classContent? (verbose : Bool) : Nat → Option (SetOperation × ClassSyntax) →
    List ClassSyntax → List Char → Option (ClassSyntax × List Char)
  | 0, _, _, _ => none
  | fuel + 1, pending, items, text =>
      match skip verbose text with
      | [] => none
      | ']' :: rest => some (settle pending items, rest)
      | '&' :: '&' :: rest =>
          classContent? verbose fuel (some (.intersection, settle pending items)) [] rest
      | '-' :: '-' :: rest =>
          classContent? verbose fuel (some (.difference, settle pending items)) [] rest
      | '~' :: '~' :: rest =>
          classContent? verbose fuel (some (.symmetricDifference, settle pending items)) [] rest
      | '[' :: rest =>
          match named? rest with
          | some (item, rest) => classContent? verbose fuel pending (item :: items) rest
          | none => do
              let (negated, first, rest) := openClass verbose rest
              let (content, rest) ← classContent? verbose fuel none first rest
              classContent? verbose fuel pending (.bracket negated content :: items) rest
      | text => do
          let (item, rest) ← classRange? verbose text
          classContent? verbose fuel pending (item :: items) rest

/-- A class behind its opening bracket. -/
def class? (verbose : Bool) (text : List Char) : Option (ClassSyntax × List Char) := do
  let (negated, first, rest) := openClass verbose text
  let (content, rest) ← classContent? verbose (rest.length + 1) none first rest
  return (.bracket negated content, rest)

end Assessment.PatternText
