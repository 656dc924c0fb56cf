import Assessment.Evaluation.Error
import Assessment.Operator
import Assessment.Value

/-!
# Signatures

A signature says how many operands an operator takes, and which cardinalities and base
types each of them may have.  Operands are checked against it before the operator
runs.  Unless a signature opts out, an operand that is NULL makes the result NULL.
-/

namespace Assessment

/-- What one operand may be.  An empty list of base types admits all of them. -/
structure Accepts where
  cardinalities : List Cardinality
  baseTypes : List BaseType
  deriving DecidableEq, Repr

namespace Accepts

def containers : List Cardinality := [.multiple, .ordered]

/-- Everything but records. -/
def scalars : List Cardinality := [.single, .multiple, .ordered]

def numeric : List BaseType := [.integer, .float]

/-- The base types whose equality is exact. -/
def matchable : List BaseType :=
  [.boolean, .integer, .string, .identifier, .uri, .intOrIdentifier, .point, .pair,
    .directedPair, .file]

end Accepts

/-- The operands an operator takes.  The last entry of `operands` holds for all further
positions. -/
structure Signature where
  least : Nat
  most : Option Nat
  operands : List Accepts
  propagatesNull : Bool
  deriving DecidableEq, Repr

namespace Signature

def exactly (count : Nat) (operands : List Accepts) : Signature :=
  ⟨count, some count, operands, true⟩

def atLeast (count : Nat) (operands : List Accepts) : Signature :=
  ⟨count, none, operands, true⟩

/-- The operator treats NULL itself. -/
def handlingNull (signature : Signature) : Signature :=
  { signature with propagatesNull := false }

def accepts? (signature : Signature) (position : Nat) : Option Accepts :=
  match signature.operands[position]? with
  | some accepts => some accepts
  | none => signature.operands.getLast?

def checkCount (operator : String) (signature : Signature) (count : Nat) : Evaluated Unit :=
  if count < signature.least then
    .error (.notEnoughOperands operator signature.least count)
  else
    match signature.most with
    | some most =>
        if most < count then .error (.tooManyOperands operator most count) else .ok ()
    | none => .ok ()

/-- Checks one operand.  `null` has no type to check. -/
def checkOperand (operator : String) (signature : Signature) (position : Nat)
    (operand : Value) : Evaluated Unit :=
  match operand.cardinality?, signature.accepts? position with
  | some cardinality, some accepts =>
      if !accepts.cardinalities.contains cardinality then
        .error (.wrongCardinality operator position
          (" or ".intercalate (accepts.cardinalities.map Cardinality.name)) cardinality.name)
      else if accepts.baseTypes.isEmpty then .ok ()
      else
        let wrong := fun (got : String) =>
          .error (.wrongBaseType operator position
            (" or ".intercalate (accepts.baseTypes.map BaseType.name)) got)
        match operand.baseType? with
        | some baseType =>
            if accepts.baseTypes.contains baseType then .ok () else wrong baseType.name
        | none => wrong "record"
  | _, _ => .ok ()

/-- Checks operands in order, the first of them at the given position. -/
def checkFrom (operator : String) (signature : Signature) (position : Nat) :
    List Value → Evaluated Unit
  | [] => .ok ()
  | operand :: operands => do
      checkOperand operator signature position operand
      checkFrom operator signature (position + 1) operands

/-- Checks the number of operands and then each of them. -/
def check (operator : String) (signature : Signature) (operands : List Value) :
    Evaluated Unit := do
  checkCount operator signature operands.length
  checkFrom operator signature 0 operands

end Signature

namespace Operator

open Accepts Signature

/-- The operands that each operator takes. -/
def signature : Operator → Signature
  | .and | .or | .anyN .. => (atLeast 1 [⟨[.single], [.boolean]⟩]).handlingNull
  | .not => exactly 1 [⟨[.single], [.boolean]⟩]
  | .identical => exactly 2 [⟨scalars, matchable⟩]
  | .stringMatch .. | .substring _ => exactly 2 [⟨[.single], [.string]⟩]
  | .patternMatch _ => exactly 1 [⟨[.single], [.string]⟩]
  | .equal _ | .equalRounded .. | .compare _ => exactly 2 [⟨[.single], numeric⟩]
  | .compareDurations _ => exactly 2 [⟨[.single], [.duration]⟩]
  | .inside _ => exactly 1 [⟨scalars, [.point]⟩]
  | .sum | .product => atLeast 1 [⟨[.single], numeric⟩]
  | .subtract | .divide | .power => exactly 2 [⟨[.single], numeric⟩]
  | .integerDivide | .integerModulus => exactly 2 [⟨[.single], [.integer]⟩]
  | .truncate | .round | .roundTo .. => exactly 1 [⟨[.single], numeric⟩]
  | .integerToFloat => exactly 1 [⟨[.single], [.integer]⟩]
  | .gcd | .lcm => atLeast 1 [⟨scalars, [.integer]⟩]
  | .min | .max => atLeast 1 [⟨scalars, numeric⟩]
  | .math function => exactly function.arity [⟨[.single], numeric⟩]
  | .stats _ => exactly 1 [⟨containers, numeric⟩]
  | .multiple => (atLeast 0 [⟨[.single, .multiple], []⟩]).handlingNull
  | .ordered => (atLeast 0 [⟨[.single, .ordered], []⟩]).handlingNull
  | .containerSize => (exactly 1 [⟨containers, []⟩]).handlingNull
  | .isNull => (exactly 1 [⟨Cardinality.all, []⟩]).handlingNull
  | .index _ => exactly 1 [⟨[.ordered], []⟩]
  | .fieldValue _ => exactly 1 [⟨[.record], []⟩]
  | .random => exactly 1 [⟨containers, []⟩]
  | .member | .delete => exactly 2 [⟨[.single], matchable⟩, ⟨containers, matchable⟩]
  | .contains => exactly 2 [⟨containers, matchable⟩]
  | .replicate _ => (atLeast 1 [⟨[.single, .ordered], []⟩]).handlingNull

end Operator

end Assessment
