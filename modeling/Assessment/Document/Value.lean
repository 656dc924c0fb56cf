import Assessment.Document.Field
import Assessment.Value

/-!
# Values in documents

Scalars are written as text, or as JSON numbers and booleans where these fit the base
type; containers as arrays, and records as objects whose fields name their base types.
`Value.ofJson` reads these forms and `Value.toJson` writes them.
-/

namespace Assessment

namespace Scalar

def ofJson (baseType : BaseType) (path : Path) (json : Json) : Reading Scalar :=
  let ofNumber : Reading Scalar :=
    match baseType with
    | .integer =>
        match json.integer? with
        | some value => .ok (.integer value)
        | none => Reading.invalid path (.notInteger json.numberText)
    | .intOrIdentifier =>
        match json.integer? with
        | some value => .ok (.intOrIdentifier (.integer value))
        | none => Reading.invalid path (.notInteger json.numberText)
    | .float =>
        match json.number? with
        | some value => .ok (.float value)
        | none => Reading.invalid path .expectedNumber
    | _ => Reading.ofModel path (read baseType json.numberText)
  match json with
  | .string text => Reading.ofModel path (read baseType text)
  | .bool value =>
      if baseType = .boolean then .ok (.boolean value)
      else Reading.invalid path (.unreadable json.kindName baseType)
  | .integer _ => ofNumber
  | .float _ => ofNumber
  | _ => Reading.invalid path (.unreadable json.kindName baseType)

def toJson : Scalar → Json
  | .boolean value => .bool value
  | .integer value => .integer value.toInt
  | .float value => if value.isFinite then .float value else .string (Real64.text value)
  | scalar => .string scalar.text

end Scalar

namespace Record

/-- Adds the fields of an object to a record, in the order of their names.  A field
whose value is absent or `null` is left out. -/
def addFields (path : Path) (record : Record) : List (String × Json) → Reading Record
  | [] => .ok record
  | (name, field) :: rest => do
      let inner := path.child name
      let baseType ← field.requireWord BaseType inner "baseType"
      match field.field? "value" with
      | none | some .null => addFields path record rest
      | some raw =>
          let scalar ← Scalar.ofJson baseType (inner.child "value") raw
          addFields path (record.insert name scalar) rest

def ofJson (path : Path) : Json → Reading Record
  | .object fields => addFields path Dictionary.empty fields
  | _ => Reading.invalid path .expectedRecord

def toJson (record : Record) : Json :=
  .object <| record.entries.map fun (name, scalar) =>
    (name, .object [("baseType", .string scalar.baseType.name), ("value", scalar.toJson)])

end Record

namespace Value

/-- The scalars of a container: the items of an array, or one scalar alone. -/
def scalarsOfJson (baseType : BaseType) (path : Path) : Json → Reading (List Scalar)
  | .array items => Json.readItems (Scalar.ofJson baseType) path 0 items
  | alone => (Scalar.ofJson baseType path alone).map ([·])

/-- Reads a value of the given cardinality and base type.  `null` is NULL whatever they
are, and records need no base type. -/
def ofJson (cardinality : Cardinality) (baseType : Option BaseType) (path : Path)
    (json : Json) : Reading Value :=
  match json with
  | .null => .ok .null
  | json =>
      match cardinality, baseType with
      | .record, _ => (Record.ofJson path json).map .record
      | _, none => Reading.missing path "baseType"
      | .single, some baseType => (Scalar.ofJson baseType path json).map .single
      | .multiple, some baseType =>
          (scalarsOfJson baseType path json).map fun values => .multiple ⟨baseType, values⟩
      | .ordered, some baseType =>
          (scalarsOfJson baseType path json).map fun values => .ordered ⟨baseType, values⟩

/-- Reads a value of a declared type. -/
def ofJsonAs (type : DeclaredType) (path : Path) (json : Json) : Reading Value :=
  ofJson type.cardinality type.baseType? path json

def toJson : Value → Json
  | .null => .null
  | .single scalar => scalar.toJson
  | .multiple container | .ordered container =>
      .array (container.values.map Scalar.toJson)
  | .record fields => Record.toJson fields

end Value

end Assessment
