import Assessment.Document.Path
import Assessment.ModelError

/-!
# Errors in documents

Reading a document stops at the first part that does not fit.  An error says where
that part is and what was expected there.
-/

namespace Assessment

/-- What is wrong with a field or item that is there. -/
inductive Mismatch where
  | expectedString
  | expectedBoolean
  | expectedNumber
  | expectedInteger
  | expectedArray
  | expectedBindings
  | expectedRecord
  | expectedReference
  | unknownWord (message : String)
  | unknownRole (got : String)
  | unknownTable (got : String)
  | undeclared
  | outOfRange (number : String)
  | notInteger (number : String)
  | notAttribute (text : String)
  | notTolerance (text : String)
  | unreadable (kind : String) (baseType : BaseType)
  | unmappableRecord
  | recordLookup
  | coordinatesNotIntegers
  | coordinatesForm
  deriving DecidableEq, Repr

namespace Mismatch

def message : Mismatch → String
  | .expectedString => "expected a string"
  | .expectedBoolean => "expected a boolean"
  | .expectedNumber => "expected a number"
  | .expectedInteger => "expected an integer"
  | .expectedArray => "expected an array"
  | .expectedBindings => "expected an object of bindings"
  | .expectedRecord => "expected an object of record fields"
  | .expectedReference => "expected a number or a variable reference"
  | .unknownWord message => message
  | .unknownRole got => "expected response, outcome or template, got '" ++ got ++ "'"
  | .unknownTable got => "expected match or interpolation, got '" ++ got ++ "'"
  | .undeclared => "no variable declared with this identifier"
  | .outOfRange number => number ++ " is out of range"
  | .notInteger number => number ++ " is not an integer"
  | .notAttribute text => "'" ++ text ++ "' is neither a literal nor a variable reference"
  | .notTolerance text => "invalid tolerance '" ++ text ++ "'"
  | .unreadable kind baseType =>
      "cannot read " ++ kind ++ " as a " ++ baseType.name ++ " value"
  | .unmappableRecord => "record variables cannot be mapped"
  | .recordLookup => "record variables cannot use a lookup table"
  | .coordinatesNotIntegers => "coordinates must be integers"
  | .coordinatesForm => "expected a coordinate string or array"

end Mismatch

inductive DocumentError where
  | missingField (path : Path) (field : String)
  | invalidValue (path : Path) (mismatch : Mismatch)
  | unknownKind (path : Path) (category kind : String)
  | model (path : Path) (error : ModelError)
  | notJson
  deriving DecidableEq, Repr

namespace DocumentError

def message : DocumentError → String
  | .missingField path field =>
      path.renderOrDocument ++ ": missing required field '" ++ field ++ "'"
  | .invalidValue path mismatch => path.render ++ ": " ++ mismatch.message
  | .unknownKind path category kind =>
      path.render ++ ": unknown " ++ category ++ " kind '" ++ kind ++ "'"
  | .model path error => path.render ++ ": " ++ error.message
  | .notJson => "invalid JSON: not a JSON text"

end DocumentError

/-- The result of reading a part of a document. -/
abbrev Reading (α : Type) := Except DocumentError α

namespace Reading

/-- A result of the value model, whose errors get the path of the part. -/
def ofModel {α : Type} (path : Path) : Except ModelError α → Reading α
  | .ok value => .ok value
  | .error error => .error (.model path error)

def invalid {α : Type} (path : Path) (mismatch : Mismatch) : Reading α :=
  .error (.invalidValue path mismatch)

def missing {α : Type} (path : Path) (field : String) : Reading α :=
  .error (.missingField path field)

end Reading

end Assessment
