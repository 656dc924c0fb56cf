import Assessment.Document.Value
import Assessment.Store

/-!
# Declarations in documents

A declaration names a variable, its role and its type, and gives the values and
tables that belong to the role.
-/

namespace Assessment

namespace Area

/-- The coordinates of an array; all of them have to be integers of 64 bits. -/
def ofItems (shape : Shape) (path : Path) (items : List Json) : Reading Area :=
  match items.mapM Json.integer? with
  | some coordinates => Reading.ofModel path (make shape coordinates)
  | none => Reading.invalid path .coordinatesNotIntegers

/-- Reads the fields `shape` and `coords`.  Only the default shape needs no
coordinates. -/
def ofJson (path : Path) (node : Json) : Reading Area := do
  let shape ← node.requireWord Shape path "shape"
  match node.field? "coords" with
  | none =>
      if shape = .everywhere then Reading.ofModel path (make shape [])
      else Reading.missing path "coords"
  | some (.string text) => Reading.ofModel (path.child "coords") (read shape text.toList)
  | some (.array items) => ofItems shape (path.child "coords") items
  | some _ => Reading.invalid (path.child "coords") .coordinatesForm

end Area

/-- Reads the items of the field `entries`, which may be absent. -/
def Json.readEntries {α : Type} (read : Path → Json → Reading α) (path : Path)
    (node : Json) : Reading (List α) :=
  match node.field? "entries" with
  | none => .ok []
  | some raw => do
      let items ← raw.requireArray (path.child "entries")
      Json.readItems read (path.child "entries") 0 items

def Bounds.ofJson (path : Path) (node : Json) : Reading Bounds := do
  let lower ← node.optionalNumber path "lowerBound"
  let upper ← node.optionalNumber path "upperBound"
  return ⟨lower, upper⟩

/-- The score of what no entry covers, zero unless it is given. -/
def Json.defaultScore (path : Path) (node : Json) : Reading Float := do
  let default ← node.optionalNumber path "defaultValue"
  return default.getD 0.0

def MapEntry.ofJson (baseType : BaseType) (path : Path) (node : Json) :
    Reading MapEntry := do
  let raw ← node.requireField path "mapKey"
  let key ← Scalar.ofJson baseType (path.child "mapKey") raw
  let score ← node.requireNumber path "mappedValue"
  let caseSensitive ← node.optionalBoolean path "caseSensitive" true
  return ⟨key, score, caseSensitive⟩

def Mapping.ofJson (baseType : BaseType) (path : Path) (node : Json) :
    Reading Mapping := do
  let entries ← node.readEntries (MapEntry.ofJson baseType) path
  let bounds ← Bounds.ofJson path node
  let default ← node.defaultScore path
  return ⟨bounds, default, entries⟩

def AreaEntry.ofJson (path : Path) (node : Json) : Reading AreaEntry := do
  let area ← Area.ofJson path node
  let score ← node.requireNumber path "mappedValue"
  return ⟨area, score⟩

def AreaMapping.ofJson (path : Path) (node : Json) : Reading AreaMapping := do
  let entries ← node.readEntries AreaEntry.ofJson path
  let bounds ← Bounds.ofJson path node
  let default ← node.defaultScore path
  return ⟨bounds, default, entries⟩

namespace LookupTable

def targetOfJson (baseType : BaseType) (path : Path) (node : Json) : Reading Scalar := do
  let raw ← node.requireField path "target"
  Scalar.ofJson baseType (path.child "target") raw

def matchEntryOfJson (baseType : BaseType) (path : Path) (node : Json) :
    Reading MatchEntry :=
  match (node.field? "source").bind Json.integer? with
  | some source => (targetOfJson baseType path node).map (⟨source, ·⟩)
  | none => Reading.invalid (path.child "source") .expectedInteger

def interpolationEntryOfJson (baseType : BaseType) (path : Path) (node : Json) :
    Reading InterpolationEntry := do
  let source ← node.requireNumber path "source"
  let includeBoundary ← node.optionalBoolean path "includeBoundary" true
  let target ← targetOfJson baseType path node
  return ⟨source, includeBoundary, target⟩

/-- The scalar looked up when no entry fits, if it is given. -/
def defaultOfJson (baseType : BaseType) (path : Path) (node : Json) :
    Reading (Option Scalar) :=
  match node.field? "defaultValue" with
  | none | some .null => .ok none
  | some raw => (Scalar.ofJson baseType (path.child "defaultValue") raw).map some

def ofJson (baseType : BaseType) (path : Path) (node : Json) : Reading LookupTable := do
  let default ← defaultOfJson baseType path node
  let entries ← match node.field? "entries" with
    | none => pure []
    | some raw => raw.requireArray (path.child "entries")
  let kind ← node.requireString path "type"
  if kind == "match" then
    let entries ← Json.readItems (matchEntryOfJson baseType) (path.child "entries") 0 entries
    return .exact default entries
  else if kind == "interpolation" then
    let entries ←
      Json.readItems (interpolationEntryOfJson baseType) (path.child "entries") 0 entries
    return .interpolation default entries
  else Reading.invalid (path.child "type") (.unknownTable kind)

end LookupTable

namespace Role

def kindOfJson (path : Path) (node : Json) : Reading RoleKind := do
  let text ← node.requireString path "role"
  if text == "response" then return .response
  else if text == "outcome" then return .outcome
  else if text == "template" then return .template
  else Reading.invalid (path.child "role") (.unknownRole text)

/-- A table of scores or values, which record variables cannot have. -/
def tableOfJson {α : Type} (read : BaseType → Path → Json → Reading α)
    (type : DeclaredType) (refusal : Mismatch) (path : Path) (node : Json)
    (field : String) : Reading (Option α) :=
  match node.field? field, type.baseType? with
  | none, _ => .ok none
  | some raw, some baseType => (read baseType (path.child field) raw).map some
  | some _, none => Reading.invalid (path.child field) refusal

def responseOfJson (type : DeclaredType) (path : Path) (node : Json) :
    Reading ResponseInfo := do
  let correct ← match node.field? "correctResponse" with
    | none => pure .null
    | some raw => Value.ofJsonAs type (path.child "correctResponse") raw
  let mapping ← tableOfJson Mapping.ofJson type .unmappableRecord path node "mapping"
  let areaMapping ← match node.field? "areaMapping" with
    | none => pure none
    | some raw => (AreaMapping.ofJson (path.child "areaMapping") raw).map some
  return ⟨correct, mapping, areaMapping⟩

def outcomeOfJson (type : DeclaredType) (path : Path) (node : Json) :
    Reading OutcomeInfo := do
  let normalMaximum ← node.optionalNumber path "normalMaximum"
  let normalMinimum ← node.optionalNumber path "normalMinimum"
  let masteryValue ← node.optionalNumber path "masteryValue"
  let lookupTable ← tableOfJson LookupTable.ofJson type .recordLookup path node "lookupTable"
  return ⟨normalMaximum, normalMinimum, masteryValue, lookupTable⟩

def templateOfJson (path : Path) (node : Json) : Reading TemplateInfo := do
  let isParameter ← node.optionalBoolean path "paramVariable" false
  let isMath ← node.optionalBoolean path "mathVariable" false
  return ⟨isParameter, isMath⟩

def ofJson (kind : RoleKind) (type : DeclaredType) (path : Path) (node : Json) :
    Reading Role :=
  match kind with
  | .response => (responseOfJson type path node).map .response
  | .outcome => (outcomeOfJson type path node).map .outcome
  | .template => (templateOfJson path node).map .template

end Role

namespace DeclaredType

/-- Reads the fields `cardinality` and `baseType`, of which the second may be absent
or `null`. -/
def ofJson (path : Path) (node : Json) : Reading DeclaredType := do
  let cardinality ← node.requireWord Cardinality path "cardinality"
  let baseType ← match node.field? "baseType" with
    | none | some .null => pure none
    | some _ => (node.requireWord BaseType path "baseType").map some
  match ofParts? cardinality baseType with
  | some type => return type
  | none => .error (.model path (.invalidDeclaration cardinality baseType))

end DeclaredType

namespace Variable

/-- Reads a declaration.  The variable has no value yet. -/
def ofJson (path : Path) (node : Json) : Reading Variable := do
  let identifier ← node.requireString path "identifier"
  let kind ← Role.kindOfJson path node
  let type ← DeclaredType.ofJson path node
  let defaultValue ← match node.field? "defaultValue" with
    | none => pure .null
    | some raw => Value.ofJsonAs type (path.child "defaultValue") raw
  let role ← Role.ofJson kind type path node
  return { identifier, type, role, value := .null, defaultValue }

end Variable

namespace Store

/-- Reads bindings of variables to values: an object whose keys are declared in the
store.  The values are read as the types of the variables say. -/
def bindingsOfFields (store : Store) :
    List (String × Json) → Reading (List (String × Value))
  | [] => .ok []
  | (identifier, raw) :: rest => do
      match store.get? identifier with
      | none => Reading.invalid [.key identifier] .undeclared
      | some v =>
          let value ← Value.ofJsonAs v.type [.key identifier] raw
          let others ← bindingsOfFields store rest
          return (identifier, value) :: others

def bindingsOfJson (store : Store) : Json → Reading (List (String × Value))
  | .object fields => bindingsOfFields store fields
  | _ => Reading.invalid Path.root .expectedBindings

/-- Assigns bindings one by one; the first one that does not fit stops it. -/
def bind (store : Store) : List (String × Value) → Except StoreError Store
  | [] => .ok store
  | (identifier, value) :: rest => do
      let store ← store.setValue identifier value
      bind store rest

end Store

namespace Variable

/-- The summary of a variable in a dumped store. -/
def toJson (v : Variable) : Json :=
  .object
    [("baseType", match v.type.baseType? with
        | some baseType => .string baseType.name
        | none => .null),
      ("cardinality", .string v.type.cardinality.name),
      ("identifier", .string v.identifier),
      ("role", .string v.role.name),
      ("value", v.value.toJson)]

end Variable

def Store.toJson (store : Store) : Json :=
  .array (store.declared.map Variable.toJson)

end Assessment
