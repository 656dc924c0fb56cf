import Assessment.Evaluation.Error
import Assessment.Attribute
import Assessment.Store

/-!
# Values of attributes

An attribute that refers to a variable takes the current value of that variable, which
must be a single scalar of a fitting base type.
-/

namespace Assessment.Attribute

/-- The value of an attribute.  `view` picks the scalars of a variable that fit, and
`wanted` names them. -/
def resolve {α : Type} (view : Scalar → Option α) (wanted operator name : String)
    (store : Store) : Attribute α → Evaluated α
  | .literal value => .ok value
  | .reference identifier =>
      match store.value? identifier with
      | none => .error (.invalidAttribute operator name (.undeclared identifier))
      | some found =>
          match found.single?.bind view with
          | some value => .ok value
          | none =>
              .error (.invalidAttribute operator name
                (.wrongValue identifier found.typeName wanted))

def resolveInteger (operator name : String) (store : Store) :
    Attribute Int64 → Evaluated Int64 :=
  resolve (fun scalar => match scalar with
    | .integer value => some value
    | _ => none) "integer" operator name store

/-- Integers are taken as floats. -/
def resolveFloat (operator name : String) (store : Store) :
    Attribute Float → Evaluated Float :=
  resolve Scalar.number? "numeric" operator name store

/-- Identifiers are taken as text. -/
def resolveString (operator name : String) (store : Store) :
    Attribute String → Evaluated String :=
  resolve (fun scalar => match scalar with
    | .string text => some text
    | .identifier text => some text
    | _ => none) "string" operator name store

end Assessment.Attribute
