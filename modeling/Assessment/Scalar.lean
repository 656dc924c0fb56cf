import Assessment.Area
import Assessment.Duration
import Assessment.Number.Decimal

/-!
# Scalars

A scalar is one typed datum.  `Scalar.read` reads the text form in which markup
writes it, `Scalar.text` writes it, and `Scalar.equal` is the equality of the value
model: pairs are unordered, and floats compare as doubles, so that NaN differs from
itself.
-/

namespace Assessment

/-- An integer or an identifier, decided by the shape of the literal. -/
inductive IntOrIdentifier where
  | integer (value : Int64)
  | identifier (name : String)
  deriving DecidableEq, Repr

/-- A single typed datum.  Files are uploaded plain text without a name. -/
inductive Scalar where
  | boolean (value : Bool)
  | integer (value : Int64)
  | float (value : Float)
  | string (text : String)
  | identifier (name : String)
  | uri (text : String)
  | intOrIdentifier (value : IntOrIdentifier)
  | point (position : Point)
  | pair (first second : String)
  | directedPair (source destination : String)
  | duration (length : Duration)
  | file (content : String)
  deriving DecidableEq, Repr

namespace Scalar

def baseType : Scalar → BaseType
  | .boolean _ => .boolean
  | .integer _ => .integer
  | .float _ => .float
  | .string _ => .string
  | .identifier _ => .identifier
  | .uri _ => .uri
  | .intOrIdentifier _ => .intOrIdentifier
  | .point _ => .point
  | .pair .. => .pair
  | .directedPair .. => .directedPair
  | .duration _ => .duration
  | .file _ => .file

/-! ## Reading -/

/-- An integer literal: a plus sign may precede the notation of an integer. -/
def readInteger? : List Char → Option Int64
  | '+' :: rest => Integer.read? rest
  | text => Integer.read? text

/-- A float literal.  Without a sign, infinity and NaN have only the names that XML
Schema gives them. -/
def readFloat? (text : List Char) : Option Float :=
  if text == ['I', 'N', 'F'] || text == ['+', 'I', 'N', 'F'] then some Real64.infinity
  else if text == ['-', 'I', 'N', 'F'] then some (-Real64.infinity)
  else if text == ['N', 'a', 'N'] then some Real64.nan
  else if (Real64.special? (Real64.lowerAscii text)).isSome then none
  else Real64.read? text

/-- An identifier is any text without blanks that is not empty. -/
def isIdentifier (text : List Char) : Bool :=
  !text.isEmpty && !text.any Text.isBlank

def readIdentifier? (text : List Char) : Option String :=
  if isIdentifier text then some (String.ofList text) else none

/-- Exactly two words. -/
def readTwo? (text : List Char) : Option (List Char × List Char) :=
  match Text.words text with
  | [first, second] => some (first, second)
  | _ => none

def readIntOrIdentifier? (text : List Char) : Option IntOrIdentifier :=
  match readInteger? text with
  | some value => some (.integer value)
  | none => (readIdentifier? text).map .identifier

def readPoint? (text : List Char) : Option Point := do
  let (x, y) ← readTwo? text
  let x ← readInteger? x
  let y ← readInteger? y
  return ⟨x, y⟩

def readPair? (text : List Char) : Option (String × String) := do
  let (first, second) ← readTwo? text
  let first ← readIdentifier? first
  let second ← readIdentifier? second
  return (first, second)

def readBoolean? (text : List Char) : Option Bool :=
  if text == ['t', 'r', 'u', 'e'] || text == ['1'] then some true
  else if text == ['f', 'a', 'l', 's', 'e'] || text == ['0'] then some false
  else none

/-- Reads the text form of a scalar.  Blanks around it are ignored, except in
strings and files, which are taken as they are. -/
def read (baseType : BaseType) (text : String) : Except ModelError Scalar :=
  let trimmed := Text.trim text.toList
  let orInvalid := fun (result : Option Scalar) =>
    match result with
    | some scalar => Except.ok scalar
    | none => Except.error (ModelError.invalidLiteral baseType text)
  match baseType with
  | .boolean => orInvalid ((readBoolean? trimmed).map .boolean)
  | .integer => orInvalid ((readInteger? trimmed).map .integer)
  | .float => orInvalid ((readFloat? trimmed).map .float)
  | .string => .ok (.string text)
  | .identifier => orInvalid ((readIdentifier? trimmed).map .identifier)
  | .uri => .ok (.uri (String.ofList trimmed))
  | .intOrIdentifier => orInvalid ((readIntOrIdentifier? trimmed).map .intOrIdentifier)
  | .point => orInvalid ((readPoint? trimmed).map .point)
  | .pair => orInvalid ((readPair? trimmed).map fun (first, second) => .pair first second)
  | .directedPair =>
      orInvalid ((readPair? trimmed).map fun (first, second) => .directedPair first second)
  | .duration =>
      match Duration.read? trimmed with
      | some length => .ok (.duration length)
      | none => .error (.invalidDuration (String.ofList trimmed))
  | .file => .ok (.file text)

/-! ## Views -/

def boolean? : Scalar → Option Bool
  | .boolean value => some value
  | _ => none

/-- The value of integers, and of the integers among `intOrIdentifier` scalars. -/
def integer? : Scalar → Option Int64
  | .integer value => some value
  | .intOrIdentifier (.integer value) => some value
  | _ => none

/-- Integers and floats as doubles. -/
def number? : Scalar → Option Float
  | .integer value => some (Real64.ofInteger value)
  | .float value => some value
  | _ => none

/-- The text of strings, identifiers and the like. -/
def string? : Scalar → Option String
  | .string text => some text
  | .identifier name => some name
  | .uri text => some text
  | .intOrIdentifier (.identifier name) => some name
  | _ => none

def point? : Scalar → Option Point
  | .point position => some position
  | _ => none

def duration? : Scalar → Option Duration
  | .duration length => some length
  | _ => none

/-! ## Equality and writing -/

/-- Equality of values.  Scalars of different base types are never equal. -/
def equal : Scalar → Scalar → Bool
  | .boolean a, .boolean b => a == b
  | .integer a, .integer b => a == b
  | .float a, .float b => a == b
  | .string a, .string b => a == b
  | .identifier a, .identifier b => a == b
  | .uri a, .uri b => a == b
  | .intOrIdentifier a, .intOrIdentifier b => decide (a = b)
  | .point a, .point b => decide (a = b)
  | .pair a b, .pair c d => (a == c && b == d) || (a == d && b == c)
  | .directedPair a b, .directedPair c d => a == c && b == d
  | .duration a, .duration b => decide (a = b)
  | .file a, .file b => a == b
  | _, _ => false

def text : Scalar → String
  | .boolean value => if value then "true" else "false"
  | .integer value => Integer.text value
  | .float value => Real64.text value
  | .string text => text
  | .identifier name => name
  | .uri text => text
  | .intOrIdentifier (.integer value) => Integer.text value
  | .intOrIdentifier (.identifier name) => name
  | .point position => Integer.text position.x ++ " " ++ Integer.text position.y
  | .pair first second => first ++ " " ++ second
  | .directedPair source destination => source ++ " " ++ destination
  | .duration length => length.text
  | .file content => s!"{content.utf8ByteSize} bytes of text/plain"

end Scalar

end Assessment
