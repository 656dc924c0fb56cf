import Assessment.Mapping

/-!
# Variables

A variable has a declared type, a current value and a default value, and the part it
plays in an attempt: a response, an outcome or a template variable.  Values are
brought into the declared type by `DeclaredType.coerce?` before they are stored.
-/

namespace Assessment

/-- What belongs to response variables. -/
structure ResponseInfo where
  correct : Value
  mapping : Option Mapping
  areaMapping : Option AreaMapping
  deriving DecidableEq

/-- What belongs to outcome variables. -/
structure OutcomeInfo where
  normalMaximum : Option Float
  normalMinimum : Option Float
  masteryValue : Option Float
  lookupTable : Option LookupTable
  deriving DecidableEq

/-- What belongs to template variables. -/
structure TemplateInfo where
  isParameter : Bool
  isMath : Bool
  deriving DecidableEq

/-- The kinds of variables. -/
inductive RoleKind where
  | response
  | outcome
  | template
  deriving DecidableEq, Repr

namespace RoleKind

def name : RoleKind → String
  | .response => "response"
  | .outcome => "outcome"
  | .template => "template"

end RoleKind

/-- The part a variable plays in an attempt. -/
inductive Role where
  | response (info : ResponseInfo)
  | outcome (info : OutcomeInfo)
  | template (info : TemplateInfo)
  deriving DecidableEq

namespace Role

def kind : Role → RoleKind
  | .response _ => .response
  | .outcome _ => .outcome
  | .template _ => .template

def name (role : Role) : String :=
  role.kind.name

end Role

structure Variable where
  identifier : String
  type : DeclaredType
  role : Role
  value : Value
  defaultValue : Value
  deriving DecidableEq

/-! ## Coercion -/

namespace Scalar

/-- Converts a scalar to a base type.  Floats lose their fraction on the way to
integers and stop at the ends of the 64-bit range. -/
def coerce? (scalar : Scalar) (target : BaseType) : Option Scalar :=
  if scalar.baseType = target then some scalar
  else
    match scalar, target with
    | .integer value, .float => some (.float (Real64.ofInteger value))
    | .float value, .integer =>
        (Dyadic.ofFloat? value).map fun parts => .integer (Integer.clamp parts.truncate)
    | .identifier name, .string => some (.string name)
    | .string text, .identifier =>
        if isIdentifier text.toList then some (.identifier text) else none
    | .integer value, .intOrIdentifier => some (.intOrIdentifier (.integer value))
    | .identifier name, .intOrIdentifier => some (.intOrIdentifier (.identifier name))
    | _, _ => none

end Scalar

namespace DeclaredType

/-- The scalars of a container converted one by one. -/
def coerceAll? (target : BaseType) (scalars : List Scalar) : Option Container :=
  (scalars.mapM fun (scalar : Scalar) => scalar.coerce? target).map (⟨target, ·⟩)

/-- The value brought into a declared type, if it can be.  NULL fits every type, and a
single value becomes a container of one. -/
def coerce? : DeclaredType → Value → Option Value
  | _, .null => some .null
  | .record, .record fields => some (.record fields)
  | .single target, .single scalar => (scalar.coerce? target).map .single
  | .multiple target, .single scalar => (coerceAll? target [scalar]).map .multiple
  | .multiple target, .multiple container =>
      (coerceAll? target container.values).map .multiple
  | .ordered target, .single scalar => (coerceAll? target [scalar]).map .ordered
  | .ordered target, .ordered container =>
      (coerceAll? target container.values).map .ordered
  | _, _ => none

end DeclaredType

/-- Why a variable cannot be read or written. -/
inductive StoreError where
  | unknownVariable (identifier : String)
  | incompatible (identifier expected got : String)
  deriving DecidableEq, Repr

def StoreError.message : StoreError → String
  | .unknownVariable identifier => "unknown variable: " ++ identifier
  | .incompatible identifier expected got =>
      "variable '" ++ identifier ++ "' (" ++ expected ++ ") cannot hold a " ++ got ++ " value"

namespace Variable

/-- The value as the variable would hold it. -/
def coerce (v : Variable) (value : Value) : Except StoreError Value :=
  match v.type.coerce? value with
  | some coerced => .ok coerced
  | none => .error (.incompatible v.identifier v.type.text value.typeName)

/-- The value a variable starts with: its default, or zero for a single number of an
outcome without default. -/
def initialValue (v : Variable) : Value :=
  if v.defaultValue.isNull then
    match v.role.kind, v.type with
    | .outcome, .single .integer => .integer 0
    | .outcome, .single .float => .float 0.0
    | _, _ => v.defaultValue
  else v.defaultValue

def reset (v : Variable) : Variable :=
  { v with value := v.initialValue }

def responseInfo? (v : Variable) : Option ResponseInfo :=
  match v.role with
  | .response info => some info
  | _ => none

def outcomeInfo? (v : Variable) : Option OutcomeInfo :=
  match v.role with
  | .outcome info => some info
  | _ => none

/-- The correct response, for response variables. -/
def correct? (v : Variable) : Option Value :=
  v.responseInfo?.map (·.correct)

def setValue (value : Value) (v : Variable) : Variable :=
  { v with value }

def setDefault (value : Value) (v : Variable) : Variable :=
  { v with defaultValue := value }

/-- Only response variables have a correct response to set. -/
def setCorrect (value : Value) (v : Variable) : Variable :=
  match v.role with
  | .response info => { v with role := .response { info with correct := value } }
  | _ => v

/-- All values that a variable holds conform to its declared type. -/
def Conforming (v : Variable) : Prop :=
  v.value.Conforms v.type ∧
    v.defaultValue.Conforms v.type ∧
    ∀ value, v.correct? = some value → value.Conforms v.type

end Variable

end Assessment
