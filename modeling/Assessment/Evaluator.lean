import Assessment.Evaluation

/-!
# Evaluators

An evaluator evaluates expressions one after another.  From one evaluation to the next
it keeps its random source and the patterns that it has compiled, so that a pattern is
compiled once however often texts are matched against it.  Texts that are no patterns
are not kept.
-/

namespace Assessment

/-- Compiled patterns under their texts. -/
structure PatternCache where
  compiled : Dictionary Pattern
  sound : ∀ text pattern, compiled.get? text = some pattern →
    Pattern.whole? text.toList = some pattern

namespace PatternCache

def empty : PatternCache where
  compiled := Dictionary.empty
  sound := nofun

/-- The cache with one more pattern. -/
def insert (cache : PatternCache) {text : String} {pattern : Pattern}
    (compiles : Pattern.whole? text.toList = some pattern) : PatternCache where
  compiled := cache.compiled.insert text pattern
  sound := by
    intro wanted found lookedUp
    rw [Dictionary.get?_insert] at lookedUp
    split at lookedUp
    next same =>
      cases lookedUp
      rw [← same]
      exact compiles
    next => exact cache.sound wanted found lookedUp

/-- The pattern of a text, which is compiled unless it is there. -/
def compile (cache : PatternCache) (text : String) : Option Pattern × PatternCache :=
  match cache.compiled.get? text with
  | some pattern => (some pattern, cache)
  | none =>
      match compiles : Pattern.whole? text.toList with
      | some pattern => (some pattern, cache.insert compiles)
      | none => (none, cache)

end PatternCache

/-- What lasts from one evaluation to the next. -/
structure Evaluator where
  source : RandomSource
  patterns : PatternCache

namespace Evaluator

/-- An evaluator that has not compiled any pattern. -/
def ofSource (source : RandomSource) : Evaluator :=
  ⟨source, PatternCache.empty⟩

/-- A computation of an evaluator.  What it drew and compiled before an error stays. -/
abbrev Computation := ExceptT EvalError (StateM Evaluator)

/-- A computation that may draw but does not match patterns. -/
def draw {α : Type} (evaluation : Evaluation α) : Computation α :=
  ExceptT.mk <| modifyGet fun evaluator =>
    let drawn := evaluation.run.run evaluator.source
    (drawn.1, { evaluator with source := drawn.2 })

/-- The pattern of a text, if it is one. -/
def compile (text : String) : Computation (Option Pattern) :=
  modifyGet fun evaluator =>
    let compiled := evaluator.patterns.compile text
    (compiled.1, { evaluator with patterns := compiled.2 })

/-- Whether the operand as a whole matches the pattern of a text. -/
def matchPattern (operator : Operator) (pattern : String) :
    List Value → Computation Value
  | [operand] =>
      match operand.string? with
      | some text => do
          match ← compile pattern with
          | some compiled => return .boolean (compiled.occursIn text.toList)
          | none => throw (.invalidAttribute operator.name "pattern" .notPattern)
      | none => throw (.misapplied operator.name)
  | _ => throw (.misapplied operator.name)

/-- Checks the operands and runs the operator on them. -/
def applyOperator (context : Context) (operator : Operator) (operands : List Value) :
    Computation Value :=
  match operator with
  | .patternMatch pattern => do
      operator.signature.check operator.name operands
      if operator.signature.propagatesNull && operands.any Value.isNull then return .null
      else
        let pattern ← pattern.resolveString operator.name "pattern" context.store
        matchPattern operator pattern operands
  | operator => draw (operator.apply context operands)

mutual

/-- The value of an expression that stands at the given depth. -/
def evaluateAt (context : Context) (depth : Nat) : Expression → Computation Value
  | .apply operator operands => do
      context.checkDepth depth
      let values ← evaluateAllAt context (depth + 1) operands
      applyOperator context operator values
  | .custom operator operands => do
      context.checkDepth depth
      let values ← evaluateAllAt context (depth + 1) operands
      operator.apply context values
  | leaf => do
      context.checkDepth depth
      draw (leaf.leafValue context)

/-- The values of operands, from left to right up to the first error. -/
def evaluateAllAt (context : Context) (depth : Nat) :
    List Expression → Computation (List Value)
  | [] => return []
  | operand :: operands => do
      let value ← evaluateAt context depth operand
      let values ← evaluateAllAt context depth operands
      return value :: values

end

/-- The value of an expression, and the evaluator after it. -/
def evaluate (context : Context) (expression : Expression) (evaluator : Evaluator) :
    Evaluated Value × Evaluator :=
  (evaluateAt context 1 expression).run.run evaluator

end Evaluator

end Assessment
