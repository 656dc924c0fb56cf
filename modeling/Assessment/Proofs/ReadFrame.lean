import Assessment.Evaluation

/-!
# What expressions may read

An expression reads only the variables that it refers to, as leaves or in attributes:
over stores that agree on them it is the same computation.
-/

namespace Assessment

/-- The stores have the same variable under each of the names, or none. -/
def Store.AgreeOn (names : List String) (left right : Store) : Prop :=
  ∀ name ∈ names, left.get? name = right.get? name

instance (names : List String) (left right : Store) :
    Decidable (Store.AgreeOn names left right) :=
  inferInstanceAs (Decidable (∀ name ∈ names, left.get? name = right.get? name))

namespace Store.AgreeOn

variable {names more : List String} {left right : Store}

theorem mono (agree : AgreeOn names left right) (fewer : more ⊆ names) :
    AgreeOn more left right :=
  fun name member => agree name (fewer member)

theorem append_left (agree : AgreeOn (names ++ more) left right) :
    AgreeOn names left right :=
  agree.mono (List.subset_append_left names more)

theorem append_right (agree : AgreeOn (names ++ more) left right) :
    AgreeOn more left right :=
  agree.mono (List.subset_append_right names more)

end Store.AgreeOn

variable {left right : Store}

/-! ## Attributes and operators -/

namespace Attribute

theorem resolve_agree {α : Type} {source : Attribute α}
    (agree : Store.AgreeOn source.references left right)
    (view : Scalar → Option α) (wanted operator name : String) :
    source.resolve view wanted operator name left =
      source.resolve view wanted operator name right := by
  cases source with
  | literal value => rfl
  | reference identifier =>
      have same : left.get? identifier = right.get? identifier :=
        agree identifier List.mem_cons_self
      simp only [resolve, Store.value?, same]

end Attribute

namespace Operator

theorem compute_agree {operator : Operator}
    (agree : Store.AgreeOn operator.references left right) (limit : Nat)
    (operands : List Value) :
    operator.compute left limit operands = operator.compute right limit operands := by
  cases operator with
  | anyN least most =>
      simp only [compute, Attribute.resolveInteger, Attribute.resolve_agree agree.append_left,
        Attribute.resolve_agree agree.append_right]
  | patternMatch pattern =>
      simp only [compute, Attribute.resolveString, Attribute.resolve_agree agree]
  | equal equality =>
      obtain ⟨mode, tolerance, includeLower, includeUpper⟩ := equality
      cases tolerance with
      | none => rfl
      | some tolerances =>
          obtain ⟨below, above⟩ := tolerances
          have same :
              Comparison.equal left ⟨mode, some (below, above), includeLower, includeUpper⟩ =
                Comparison.equal right ⟨mode, some (below, above), includeLower, includeUpper⟩ := by
            funext a b
            simp only [Comparison.equal, Attribute.resolveFloat,
              Attribute.resolve_agree agree.append_left,
              Attribute.resolve_agree agree.append_right]
          simp only [compute, same]
  | equalRounded mode figures =>
      simp only [compute, Attribute.resolveInteger, Attribute.resolve_agree agree]
  | roundTo mode figures =>
      simp only [compute, Attribute.resolveInteger, Attribute.resolve_agree agree]
  | index position =>
      simp only [compute, Attribute.resolveInteger, Attribute.resolve_agree agree]
  | replicate count =>
      simp only [compute, Attribute.resolveInteger, Attribute.resolve_agree agree]
  | math function => cases function <;> rfl
  -- the other operators have no attributes that refer to variables
  | _ => rfl

theorem apply_eq_of_ne_random {operator : Operator} (different : operator ≠ .random)
    (context : Context) (operands : List Value) :
    operator.apply context operands = (do
      operator.signature.check operator.name operands
      if operator.signature.propagatesNull && operands.any Value.isNull then return .null
      else operator.compute context.store context.settings.maxContainerSize operands) := by
  unfold apply
  refine bind_congr fun _ => ?_
  split
  next => rfl
  next =>
    split
    next => exact absurd rfl different
    next => rfl

theorem apply_agree {operator : Operator}
    (agree : Store.AgreeOn operator.references left right) (environment : Environment)
    (operands : List Value) :
    operator.apply (environment.over left) operands =
      operator.apply (environment.over right) operands := by
  by_cases random : operator = .random
  · subst random
    rcases operands with _ | ⟨first, _ | ⟨second, rest⟩⟩ <;> rfl
  · rw [apply_eq_of_ne_random random, apply_eq_of_ne_random random]
    have same := compute_agree agree environment.settings.maxContainerSize operands
    simp only [Environment.over, same]

end Operator

/-! ## Expressions -/

theorem Environment.lookUp_agree {identifier : String}
    (agree : Store.AgreeOn [identifier] left right) (environment : Environment) :
    (environment.over left).lookUp identifier = (environment.over right).lookUp identifier := by
  have same : left.get? identifier = right.get? identifier :=
    agree identifier List.mem_cons_self
  simp only [Context.lookUp, Environment.over, same]

namespace Expression

theorem leafValue_agree {expression : Expression}
    (agree : Store.AgreeOn expression.references left right) (environment : Environment) :
    expression.leafValue (environment.over left) =
      expression.leafValue (environment.over right) := by
  cases expression with
  | valueOf identifier => simp only [leafValue, environment.lookUp_agree agree]
  | correctOf identifier => simp only [leafValue, environment.lookUp_agree agree]
  | defaultOf identifier => simp only [leafValue, environment.lookUp_agree agree]
  | mapResponse identifier => simp only [leafValue, environment.lookUp_agree agree]
  | mapResponsePoint identifier => simp only [leafValue, environment.lookUp_agree agree]
  | randomInteger low high step =>
      have bounds := agree.append_left
      simp only [leafValue, Attribute.resolveInteger, Environment.over,
        Attribute.resolve_agree bounds.append_left,
        Attribute.resolve_agree bounds.append_right,
        Attribute.resolve_agree agree.append_right]
  | randomFloat low high =>
      simp only [leafValue, Attribute.resolveFloat, Environment.over,
        Attribute.resolve_agree agree.append_left,
        Attribute.resolve_agree agree.append_right]
  | _ => rfl

mutual

theorem evaluateAt_agree (environment : Environment) (depth : Nat)
    (expression : Expression) (agree : Store.AgreeOn expression.references left right) :
    expression.evaluateAt (environment.over left) depth =
      expression.evaluateAt (environment.over right) depth := by
  cases expression with
  | apply operator operands =>
      simp only [evaluateAt, evaluateAllAt_agree environment (depth + 1) operands
        agree.append_right, Operator.apply_agree agree.append_left]
      rfl
  | custom operator operands =>
      simp only [evaluateAt, evaluateAllAt_agree environment (depth + 1) operands agree]
      rfl
  | _ =>
      simp only [evaluateAt, leafValue_agree agree]
      rfl

theorem evaluateAllAt_agree (environment : Environment) (depth : Nat)
    (operands : List Expression)
    (agree : Store.AgreeOn (referencesOfAll operands) left right) :
    evaluateAllAt (environment.over left) depth operands =
      evaluateAllAt (environment.over right) depth operands := by
  cases operands with
  | nil => rfl
  | cons operand operands =>
      simp only [evaluateAllAt, evaluateAt_agree environment depth operand agree.append_left,
        evaluateAllAt_agree environment depth operands agree.append_right]

end

/-- Expressions are local: other variables than those referred to do not matter. -/
theorem evaluate_agree {expression : Expression} (environment : Environment)
    (agree : Store.AgreeOn expression.references left right) :
    expression.evaluate (environment.over left) =
      expression.evaluate (environment.over right) :=
  evaluateAt_agree environment 1 expression agree

end Expression

end Assessment
