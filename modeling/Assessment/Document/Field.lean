import Assessment.Attribute
import Assessment.Document.Error
import Assessment.Json

/-!
# Fields of documents

How single fields of an object are read: required or optional, as text, number,
boolean, word of a vocabulary or attribute.  Every function gets the path of the
object, so that its errors can name the field.
-/

namespace Assessment.Json

/-- The notation of a number; other values have none. -/
def numberText : Json → String
  | .integer value => String.ofList (Integer.decimal value)
  | .float value => floatText value
  | _ => ""

def isNumber : Json → Bool
  | .integer _ | .float _ => true
  | _ => false

def requireArray (path : Path) : Json → Reading (List Json)
  | .array items => .ok items
  | _ => Reading.invalid path .expectedArray

def requireField (path : Path) (node : Json) (field : String) : Reading Json :=
  match node.field? field with
  | some value => .ok value
  | none => Reading.missing path field

def requireString (path : Path) (node : Json) (field : String) : Reading String :=
  match node.field? field with
  | some (.string text) => .ok text
  | some _ => Reading.invalid (path.child field) .expectedString
  | none => Reading.missing path field

/-- A text that may be absent or `null`. -/
def optionalString (path : Path) (node : Json) (field : String) :
    Reading (Option String) :=
  match node.field? field with
  | none | some .null => .ok none
  | some (.string text) => .ok (some text)
  | some _ => Reading.invalid (path.child field) .expectedString

/-- A boolean that may be absent or `null`. -/
def optionalBoolean (path : Path) (node : Json) (field : String) (default : Bool) :
    Reading Bool :=
  match node.field? field with
  | none | some .null => .ok default
  | some (.bool value) => .ok value
  | some _ => Reading.invalid (path.child field) .expectedBoolean

/-- A number that may be absent or `null`. -/
def optionalNumber (path : Path) (node : Json) (field : String) :
    Reading (Option Float) :=
  match node.field? field with
  | none | some .null => .ok none
  | some value =>
      match value.number? with
      | some number => .ok (some number)
      | none => Reading.invalid (path.child field) .expectedNumber

/-- A number that may be neither absent nor `null`. -/
def requireNumber (path : Path) (node : Json) (field : String) : Reading Float := do
  match ← optionalNumber path node field with
  | some number => return number
  | none => Reading.missing path field

/-- A word of a vocabulary, with the member that an absent field stands for. -/
def wordOr (α : Type) [Vocabulary α] (path : Path) (node : Json) (field : String)
    (default : Option α) : Reading α :=
  match node.field? field, default with
  | none, some member => .ok member
  | none, none => Reading.missing path field
  | some (.string text), _ =>
      match Vocabulary.read α text with
      | .ok member => .ok member
      | .error message => Reading.invalid (path.child field) (.unknownWord message)
  | some _, _ => Reading.invalid (path.child field) .expectedString

def requireWord (α : Type) [Vocabulary α] (path : Path) (node : Json) (field : String) :
    Reading α :=
  wordOr α path node field none

/-- An attribute given as a number, or as the text of a literal or reference. -/
def attributeOr {α : Type} (ofNumber : Json → Option α)
    (ofText : String → Option (Attribute α)) (path : Path) (node : Json) (field : String)
    (default : Option α) : Reading (Attribute α) :=
  match node.field? field, default with
  | none, some value => .ok (.literal value)
  | none, none => Reading.missing path field
  | some (.string text), _ =>
      match ofText text with
      | some found => .ok found
      | none => Reading.invalid (path.child field) (.notAttribute text)
  | some other, _ =>
      if other.isNumber then
        match ofNumber other with
        | some value => .ok (.literal value)
        | none => Reading.invalid (path.child field) (.outOfRange other.numberText)
      else Reading.invalid (path.child field) .expectedReference

def integerAttribute (path : Path) (node : Json) (field : String) (default : Option Int64) :
    Reading (Attribute Int64) :=
  attributeOr integer? Attribute.readInteger? path node field default

def floatAttribute (path : Path) (node : Json) (field : String) (default : Option Float) :
    Reading (Attribute Float) :=
  attributeOr number? Attribute.readFloat? path node field default

def stringAttribute (path : Path) (node : Json) (field : String) :
    Reading (Attribute String) :=
  attributeOr (fun _ => none) Attribute.readString? path node field none

/-- Reads the items of an array in order; each gets its own path. -/
def readItems {α : Type} (read : Path → Json → Reading α) (path : Path) (position : Nat) :
    List Json → Reading (List α)
  | [] => .ok []
  | item :: items => do
      let first ← read (path.item position) item
      let others ← readItems read path (position + 1) items
      return first :: others

end Assessment.Json
