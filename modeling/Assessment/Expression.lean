import Assessment.Operator
import Assessment.Scalar

/-!
# Expressions

Expressions are trees of operators over literals, variables and a few other leaves.
They are plain data; evaluating them needs a store and a random source.
-/

namespace Assessment

/-- An operator from outside of the built-in ones, with the markup in which it may have
further attributes. -/
structure CustomOperator where
  className : Option String
  definition : Option String
  markup : String
  deriving DecidableEq, Repr

inductive Expression where
  | baseValue (scalar : Scalar)
  | valueOf (identifier : String)
  | correctOf (identifier : String)
  | defaultOf (identifier : String)
  | null
  | mapResponse (identifier : String)
  | mapResponsePoint (identifier : String)
  | mathConstant (constant : MathConstant)
  | randomInteger (low high step : Attribute Int64)
  | randomFloat (low high : Attribute Float)
  | apply (operator : Operator) (operands : List Expression)
  | custom (operator : CustomOperator) (operands : List Expression)
  deriving Repr

namespace Expression

instance : Inhabited Expression :=
  ⟨.null⟩

/-- The name of the expression's element in markup. -/
def name : Expression → String
  | .baseValue _ => "baseValue"
  | .valueOf _ => "variable"
  | .correctOf _ => "correct"
  | .defaultOf _ => "default"
  | .null => "null"
  | .mapResponse _ => "mapResponse"
  | .mapResponsePoint _ => "mapResponsePoint"
  | .mathConstant _ => "mathConstant"
  | .randomInteger .. => "randomInteger"
  | .randomFloat .. => "randomFloat"
  | .apply operator _ => operator.name
  | .custom .. => "customOperator"

def children : Expression → List Expression
  | .apply _ operands => operands
  | .custom _ operands => operands
  | _ => []

mutual

/-- Whether evaluating the expression may draw from the random source. -/
def isRandom : Expression → Bool
  | .randomInteger .. => true
  | .randomFloat .. => true
  | .apply operator operands => operator == .random || anyRandom operands
  | .custom _ operands => anyRandom operands
  | _ => false

def anyRandom : List Expression → Bool
  | [] => false
  | operand :: operands => isRandom operand || anyRandom operands

end

mutual

/-- The number of nodes on the longest path from the root to a leaf. -/
def depth : Expression → Nat
  | .apply _ operands => 1 + maxDepth operands
  | .custom _ operands => 1 + maxDepth operands
  | _ => 1

def maxDepth : List Expression → Nat
  | [] => 0
  | operand :: operands => Nat.max (depth operand) (maxDepth operands)

end

mutual

/-- The variables that occur in the expression, as leaves or in attributes. -/
def references : Expression → List String
  | .valueOf identifier => [identifier]
  | .correctOf identifier => [identifier]
  | .defaultOf identifier => [identifier]
  | .mapResponse identifier => [identifier]
  | .mapResponsePoint identifier => [identifier]
  | .randomInteger low high step => low.references ++ high.references ++ step.references
  | .randomFloat low high => low.references ++ high.references
  | .apply operator operands => operator.references ++ referencesOfAll operands
  | .custom _ operands => referencesOfAll operands
  | .baseValue _ => []
  | .null => []
  | .mathConstant _ => []

def referencesOfAll : List Expression → List String
  | [] => []
  | operand :: operands => references operand ++ referencesOfAll operands

end

end Expression

end Assessment
