import Assessment.BaseType
import Assessment.Number.Integer

/-!
# Errors of evaluation

Evaluating an expression either gives a value or one of these errors, which ends the
rule that the expression stands in.
-/

namespace Assessment

/-- Why an attribute cannot be used. -/
inductive AttributeFault where
  | undeclared (identifier : String)
  | wrongValue (identifier got wanted : String)
  | tooFewFigures (mode : String) (minimum : Int) (got : Int64)
  | notPositive (got : Int64)
  | belowOne (got : Int64)
  | belowMinimum (maximum minimum : String)
  | notFinite (got : String)
  | tooWide (minimum maximum : String)
  | notPattern
  deriving DecidableEq, Repr

namespace AttributeFault

def message : AttributeFault → String
  | .undeclared identifier => "refers to undeclared variable '" ++ identifier ++ "'"
  | .wrongValue identifier got wanted =>
      "variable '" ++ identifier ++ "' holds a " ++ got ++ " value, expected a single " ++
        wanted
  | .tooFewFigures mode minimum got =>
      mode ++ s!" requires at least {minimum}, got " ++ Integer.text got
  | .notPositive got => "must be positive, got " ++ Integer.text got
  | .belowOne got => "must be at least 1, got " ++ Integer.text got
  | .belowMinimum maximum minimum => maximum ++ " is below min " ++ minimum
  | .notFinite got => "must be finite, got " ++ got
  | .tooWide minimum maximum => "range " ++ minimum ++ ".." ++ maximum ++ " is too wide"
  | .notPattern => "not a regular expression"

end AttributeFault

/-- What a variable lacks for an expression that refers to it. -/
inductive VariableFault where
  | notResponse
  | noMapping
  | noAreaMapping
  | isRecord
  deriving DecidableEq, Repr

def VariableFault.message : VariableFault → String
  | .notResponse => "not a response variable"
  | .noMapping => "no mapping declared"
  | .noAreaMapping => "no area mapping declared"
  | .isRecord => "records cannot be mapped"

/-- Operands that are acceptable one by one but do not go together. -/
inductive OperandFault where
  | incomparable (left right : String)
  | mixedBaseTypes (first other : BaseType)
  deriving DecidableEq, Repr

def OperandFault.message : OperandFault → String
  | .incomparable left right => "cannot compare " ++ left ++ " with " ++ right
  | .mixedBaseTypes first other =>
      "operands mix base types " ++ first.name ++ " and " ++ other.name

inductive EvalError where
  | notEnoughOperands (operator : String) (least got : Nat)
  | tooManyOperands (operator : String) (most got : Nat)
  | wrongCardinality (operator : String) (position : Nat) (expected got : String)
  | wrongBaseType (operator : String) (position : Nat) (expected got : String)
  | unknownCustomOperator (className : String)
  | unknownVariable (identifier : String)
  | invalidVariable (expression identifier : String) (fault : VariableFault)
  | invalidAttribute (operator name : String) (fault : AttributeFault)
  | invalidOperand (operator : String) (fault : OperandFault)
  | overflow (operator : String)
  | containerTooLarge (operator : String) (requested limit : Nat)
  | depthExceeded (limit : Nat)
  /-- An operator was run on operands that its signature does not admit.  No
  evaluation ends this way, because signatures are checked first. -/
  | misapplied (operator : String)
  deriving DecidableEq, Repr

namespace EvalError

def message : EvalError → String
  | .notEnoughOperands operator least got =>
      operator ++ s!": expected at least {least} operand(s), got {got}"
  | .tooManyOperands operator most got =>
      operator ++ s!": expected at most {most} operand(s), got {got}"
  | .wrongCardinality operator position expected got =>
      operator ++ s!": operand {position} has cardinality " ++ got ++ ", expected " ++ expected
  | .wrongBaseType operator position expected got =>
      operator ++ s!": operand {position} has base type " ++ got ++ ", expected " ++ expected
  | .unknownCustomOperator className =>
      "no custom operator registered for class '" ++ className ++ "'"
  | .unknownVariable identifier => "unknown variable: " ++ identifier
  | .invalidVariable expression identifier fault =>
      expression ++ " '" ++ identifier ++ "': " ++ fault.message
  | .invalidAttribute operator name fault =>
      operator ++ ": invalid " ++ name ++ ": " ++ fault.message
  | .invalidOperand operator fault => operator ++ ": " ++ fault.message
  | .overflow operator => operator ++ ": integer overflow"
  | .containerTooLarge operator requested limit =>
      operator ++ s!": result would hold {requested} values, over the limit of {limit}"
  | .depthExceeded limit => s!"expression nesting exceeds the limit of {limit}"
  | .misapplied operator => operator ++ ": operands do not fit the operator"

end EvalError

/-- The result of a computation that draws nothing. -/
abbrev Evaluated (α : Type) := Except EvalError α

end Assessment
