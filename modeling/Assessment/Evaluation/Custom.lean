import Assessment.Dictionary
import Assessment.Evaluation.Error
import Assessment.Markup
import Assessment.Text.Search
import Assessment.Value

/-!
# Custom operators

Custom operators are looked up by the name of their class or by their definition.  The
standard registry has operators that join and split texts.
-/

namespace Assessment

/-- What a custom operator does with its operands and its markup. -/
abbrev Extension := List Value → String → Evaluated Value

abbrev Registry := Dictionary Extension

namespace Registry

/-- The part of a qualified name behind its last full stop. -/
def shortName? (name : String) : Option String :=
  if name.toList.contains '.' then
    some (String.ofList (name.toList.reverse.takeWhile (· != '.')).reverse)
  else none

/-- The operator of a class, under its full or its short name. -/
def ofClass? (registry : Registry) (name : String) : Option Extension :=
  match registry.get? name with
  | some extension => some extension
  | none => (shortName? name).bind registry.get?

/-- Looks an operator up by its class and then by its definition. -/
def resolve? (registry : Registry) (className definition : Option String) :
    Option Extension :=
  match className.bind registry.ofClass? with
  | some extension => some extension
  | none => definition.bind registry.get?

end Registry

namespace Extension

/-- Demands an exact number of operands. -/
def expectCount (name : String) (count : Nat) (operands : List Value) : Evaluated Unit :=
  if operands.length < count then .error (.notEnoughOperands name count operands.length)
  else if count < operands.length then .error (.tooManyOperands name count operands.length)
  else .ok ()

/-- The text of a single string; other texts do not count. -/
def expectString (name : String) (position : Nat) (operand : Value) : Evaluated String :=
  match operand with
  | .single (.string text) => .ok text
  | .single _ => .error (.wrongBaseType name position "string" operand.typeName)
  | _ => .error (.wrongCardinality name position "single" operand.typeName)

/-- The texts of a container of strings. -/
def expectStrings (name : String) (position : Nat) (operand : Value) :
    Evaluated (List String) :=
  match operand.container? with
  | none => .error (.wrongCardinality name position "multiple or ordered" operand.typeName)
  | some container =>
      if container.baseType = .string then .ok (container.values.filterMap Scalar.string?)
      else .error (.wrongBaseType name position "string" operand.typeName)

/-- A container of the given texts. -/
def ofTexts (texts : List (List Char)) : Container :=
  ⟨.string, texts.map fun text => .string (String.ofList text)⟩

/-- Joins a container of strings with a delimiter. -/
def implode : Extension := fun operands _ => do
  expectCount "Implode" 2 operands
  match operands with
  | [container, delimiter] =>
      if container.isNull || delimiter == .null then return .null
      else do
        let texts ← expectStrings "Implode" 0 container
        let delimiter ← expectString "Implode" 1 delimiter
        return .string (delimiter.intercalate texts)
  | _ => .error (.misapplied "Implode")

/-- Splits a string at a delimiter. -/
def explode : Extension := fun operands _ => do
  expectCount "Explode" 2 operands
  match operands with
  | [delimiter, text] =>
      if delimiter.isNull || text.isNull then return .null
      else do
        let delimiter ← expectString "Explode" 0 delimiter
        let text ← expectString "Explode" 1 text
        return .ordered (ofTexts (Text.splitOn delimiter.toList text.toList))
  | _ => .error (.misapplied "Explode")

/-- The delimiter that the markup gives, a comma unless it gives one. -/
def delimiterOf (markup : String) : String :=
  match Markup.attribute? "delimiter" markup with
  | some delimiter => if delimiter.isEmpty then "," else delimiter
  | none => ","

/-- The items of a delimited text, trimmed, without the empty ones. -/
def items (delimiter text : String) : List (List Char) :=
  ((Text.splitOn delimiter.toList text.toList).map Text.trim).filter fun item =>
    !item.isEmpty

/-- Splits a delimited text into the container that `wrap` makes. -/
def separate (name : String) (wrap : Container → Value) : Extension :=
  fun operands markup => do
    expectCount name 1 operands
    match operands with
    | [text] =>
        if text.isNull then return .null
        else do
          let text ← expectString name 0 text
          return wrap (ofTexts (items (delimiterOf markup) text))
    | _ => .error (.misapplied name)

end Extension

/-- The operators that every program knows. -/
def Registry.standard : Registry :=
  Dictionary.ofList
    [("Implode", Extension.implode), ("Explode", Extension.explode),
      ("CsvToMultiple", Extension.separate "CsvToMultiple" .multiple),
      ("CsvToOrdered", Extension.separate "CsvToOrdered" .ordered)]

end Assessment
