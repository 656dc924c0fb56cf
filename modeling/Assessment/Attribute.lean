import Assessment.Number.Decimal
import Assessment.Text.Blank
import Assessment.Text.Letter

/-!
# Attributes that may refer to variables

Some attributes of operators are either a literal or the identifier of a variable
whose value is read when the operator is evaluated.
-/

namespace Assessment

inductive Attribute (α : Type) where
  | literal (value : α)
  | reference (identifier : String)
  deriving DecidableEq, Repr

namespace Attribute

/-- An identifier of a variable begins with a letter or underscore and goes on with
letters, numbers, underscores, hyphens and full stops. -/
def isIdentifier : List Char → Bool
  | [] => false
  | c :: rest =>
      (Text.isAlphabetic c || c == '_') &&
        rest.all fun c =>
          Text.isAlphabetic c || Text.isNumeric c || c == '_' || c == '-' || c == '.'

/-- The text between braces. -/
def braced? : List Char → Option (List Char)
  | '\x7b' :: rest =>
      if rest.getLast? == some '\x7d' then some rest.dropLast else none
  | _ => none

def reference? {α : Type} (identifier : List Char) : Option (Attribute α) :=
  if isIdentifier identifier then some (.reference (String.ofList identifier)) else none

/-- Reads an attribute.  Text in braces is always a reference.  Otherwise a literal
goes first, which is read without trimming, and then a bare identifier. -/
def read? {α : Type} (literal? : List Char → Option α) (text : String) :
    Option (Attribute α) :=
  let trimmed := Text.trim text.toList
  match braced? trimmed with
  | some identifier => reference? identifier
  | none =>
      match literal? text.toList with
      | some value => some (.literal value)
      | none => reference? trimmed

def readInteger? (text : String) : Option (Attribute Int64) :=
  read? Integer.read? text

def readFloat? (text : String) : Option (Attribute Float) :=
  read? Real64.read? text

def readString? (text : String) : Option (Attribute String) :=
  read? (fun characters => some (String.ofList characters)) text

/-- The variables an attribute refers to: one or none. -/
def references {α : Type} : Attribute α → List String
  | .literal _ => []
  | .reference identifier => [identifier]

end Attribute

end Assessment
