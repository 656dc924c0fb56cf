import Assessment.BaseType
import Assessment.Number.Integer

/-!
# Errors of the value model

The causes for which a literal, a list of coordinates, an attribute or a declaration
is refused, and the message of each.
-/

namespace Assessment

/-- Why a list of coordinates does not describe an area. -/
inductive CoordinateFault where
  | number (fault : Integer.Fault)
  | count (expected got : Nat)
  | negativeRadius
  | vertices (got : Nat)
  deriving DecidableEq, Repr

def CoordinateFault.message : CoordinateFault → String
  | .number fault => fault.message
  | .count expected got => s!"expected {expected} values, got {got}"
  | .negativeRadius => "radius must not be negative"
  | .vertices got =>
      s!"expected an even number of values describing at least 3 vertices, got {got}"

inductive ModelError where
  | invalidLiteral (baseType : BaseType) (text : String)
  | containerMismatch (expected got : BaseType)
  | invalidCoordinates (shape : String) (fault : CoordinateFault)
  | missingTolerance (mode : String)
  | invalidDuration (text : String)
  | tooManyTolerances (got : Nat)
  | invalidDeclaration (cardinality : Cardinality) (baseType : Option BaseType)
  deriving DecidableEq, Repr

namespace ModelError

def message : ModelError → String
  | .invalidLiteral baseType text => "cannot parse '" ++ text ++ "' as " ++ baseType.name
  | .containerMismatch expected got =>
      "container of " ++ expected.name ++ " cannot hold a " ++ got.name ++ " value"
  | .invalidCoordinates shape fault => "invalid coords for " ++ shape ++ ": " ++ fault.message
  | .missingTolerance mode => "tolerance mode '" ++ mode ++ "' requires a tolerance"
  | .invalidDuration text => "invalid duration '" ++ text ++ "'"
  | .tooManyTolerances got => s!"invalid tolerance: expected one or two values, got {got}"
  | .invalidDeclaration cardinality baseType =>
      let shown := match baseType with
        | some baseType => "Some(" ++ baseType.capitalName ++ ")"
        | none => "None"
      "cardinality " ++ cardinality.name ++ " cannot be combined with base type " ++ shown

end ModelError

end Assessment
