import Assessment.Proofs.Drawless
import Assessment.Proofs.SignatureCheck

/-!
# Evaluations with one result

Many expressions have a result that does not depend on the random source: it is known
which one, as soon as the variables are known that the expression mentions.  Operands of
one declared type can always be compared, since a signature looks at types only.
-/

namespace Assessment

/-- Every source gives this result and stays where it is. -/
def Evaluation.Gives {α : Type} (evaluation : Evaluation α) (result : Evaluated α) : Prop :=
  ∀ source, evaluation.run.run source = (result, source)

namespace Evaluation.Gives

variable {α β : Type}

theorem pure (value : α) : Gives (Pure.pure value) (.ok value) :=
  fun _ => rfl

theorem ofEvaluated (result : Evaluated α) : Gives (liftM result : Evaluation α) result := by
  cases result <;> exact fun _ => rfl

theorem bind {first : Evaluation α} {next : α → Evaluation β} {value : α}
    {result : Evaluated β} (gives : Gives first (.ok value))
    (rest : Gives (next value) result) : Gives (first >>= next) result := by
  intro source
  rw [run_run_bind, gives]
  exact rest source

/-- Evaluations that give one result do the same. -/
theorem eq {first second : Evaluation α} {result : Evaluated α} (gives : Gives first result)
    (alike : Gives second result) : first = second :=
  funext fun source => (gives source).trans (alike source).symm

theorem unique {evaluation : Evaluation α} {first second : Evaluated α}
    (gives : Gives evaluation first) (alike : Gives evaluation second) : first = second :=
  congrArg Prod.fst ((gives (.ofSeed 0)).symm.trans (alike (.ofSeed 0)))

end Evaluation.Gives

open Evaluation (Gives)

/-! ## Expressions -/

section Expressions

variable {context : Context} {v : Variable} {identifier : String} {depth : Nat}

theorem Context.checkDepth_gives {next : Evaluation Value} {result : Evaluated Value}
    (within : depth ≤ context.settings.maxExpressionDepth) (rest : Gives next result) :
    Gives (do context.checkDepth depth; next) result := by
  have shallow : context.checkDepth depth = .ok () := if_neg (Nat.not_lt.mpr within)
  rw [shallow]
  exact .bind (.ofEvaluated _) rest

theorem Context.lookUp_gives {next : Variable → Evaluation Value} {result : Evaluated Value}
    (found : context.store.get? identifier = some v) (rest : Gives (next v) result) :
    Gives (do let v ← context.lookUp identifier; next v) result := by
  have looked : context.lookUp identifier = .ok v := by
    rw [lookUp, found]
  rw [looked]
  exact .bind (.ofEvaluated _) rest

namespace Expression

theorem valueOf_gives (within : depth ≤ context.settings.maxExpressionDepth)
    (found : context.store.get? identifier = some v) :
    Gives ((valueOf identifier).evaluateAt context depth) (.ok v.value) := by
  simp only [evaluateAt, leafValue]
  apply Context.checkDepth_gives within
  exact Context.lookUp_gives found (.pure _)

theorem correctOf_gives {info : ResponseInfo}
    (within : depth ≤ context.settings.maxExpressionDepth)
    (found : context.store.get? identifier = some v) (role : v.role = .response info) :
    Gives ((correctOf identifier).evaluateAt context depth) (.ok info.correct) := by
  have correct : v.correct? = some info.correct := by
    rw [Variable.correct?, Variable.responseInfo?, role]
    rfl
  simp only [evaluateAt, leafValue]
  apply Context.checkDepth_gives within
  apply Context.lookUp_gives found
  rw [correct]
  exact .pure _

theorem baseValue_gives (within : 1 ≤ context.settings.maxExpressionDepth) (scalar : Scalar) :
    Gives ((baseValue scalar).evaluate context) (.ok (.single scalar)) := by
  simp only [evaluate, evaluateAt, leafValue]
  exact Context.checkDepth_gives within (.pure _)

theorem mapResponse_gives (within : 1 ≤ context.settings.maxExpressionDepth)
    (found : context.store.get? identifier = some v) :
    Gives ((mapResponse identifier).evaluate context) v.mappedScore := by
  simp only [evaluate, evaluateAt, leafValue]
  apply Context.checkDepth_gives within
  exact Context.lookUp_gives found (.ofEvaluated _)

theorem mapResponsePoint_gives (within : 1 ≤ context.settings.maxExpressionDepth)
    (found : context.store.get? identifier = some v) :
    Gives ((mapResponsePoint identifier).evaluate context) v.areaScore := by
  simp only [evaluate, evaluateAt, leafValue]
  apply Context.checkDepth_gives within
  exact Context.lookUp_gives found (.ofEvaluated _)

theorem evaluateAllAt_gives {operands : List Expression} {values : List Value}
    (each : List.Forall₂ (fun operand value => Gives (evaluateAt context depth operand) (.ok value))
      operands values) :
    Gives (evaluateAllAt context depth operands) (.ok values) := by
  induction each with
  | nil =>
      rw [evaluateAllAt]
      exact .pure _
  | cons first _ induction =>
      rw [evaluateAllAt]
      apply Gives.bind first
      exact .bind induction (.pure _)

theorem apply_gives {operator : Operator} {operands : List Expression} {values : List Value}
    {result : Evaluated Value} (within : 1 ≤ context.settings.maxExpressionDepth)
    (each : List.Forall₂ (fun operand value => Gives (evaluateAt context 2 operand) (.ok value))
      operands values)
    (applied : Gives (operator.apply context values) result) :
    Gives ((apply operator operands).evaluate context) result := by
  rw [evaluate, evaluateAt]
  apply Context.checkDepth_gives within
  exact .bind (evaluateAllAt_gives each) applied

end Expression

end Expressions

/-! ## Operands of a declared type -/

namespace Value.Conforms

variable {value : Value} {type : DeclaredType} {baseType : BaseType}

theorem type_eq (conforms : value.Conforms type) :
    value = .null ∨
      value.cardinality? = some type.cardinality ∧ value.baseType? = type.baseType? := by
  cases value with
  | null => exact .inl rfl
  | single scalar => exact .inr (by rw [show type = _ from conforms]; exact ⟨rfl, rfl⟩)
  | multiple container => exact .inr (by rw [conforms.1]; exact ⟨rfl, rfl⟩)
  | ordered container => exact .inr (by rw [conforms.1]; exact ⟨rfl, rfl⟩)
  | record fields => exact .inr (by rw [show type = _ from conforms]; exact ⟨rfl, rfl⟩)

/-- A value that is not NULL has the cardinality and the base type of its declaration. -/
theorem type_eq_of_notNull (conforms : value.Conforms type) (notNull : value.isNull = false) :
    value.cardinality? = some type.cardinality ∧ value.baseType? = type.baseType? := by
  rcases conforms.type_eq with rfl | same
  · cases notNull
  · exact same

theorem baseType_of_mem (conforms : value.Conforms type) {scalar : Scalar}
    (member : scalar ∈ value.scalars) : type.baseType? = some scalar.baseType := by
  cases value with
  | null | record fields => cases member
  | single only =>
      rw [show type = _ from conforms, List.mem_singleton.mp member]
      rfl
  | multiple container =>
      rw [conforms.1, conforms.2 scalar member]
      rfl
  | ordered container =>
      rw [conforms.1, conforms.2 scalar member]
      rfl

end Value.Conforms

namespace Operator

/-- Operands that are admitted and not NULL are computed with. -/
theorem apply_gives {operator : Operator} {operands : List Value} (context : Context)
    (different : operator ≠ .random) (admits : operator.signature.Admits operands)
    (filled : ∀ operand ∈ operands, operand.isNull = false) :
    Gives (operator.apply context operands)
      (operator.compute context.store context.settings.maxContainerSize operands) := by
  have accepted : operator.signature.check operator.name operands = .ok () :=
    Signature.check_eq_ok_iff.mpr admits
  have noNull : operands.any Value.isNull = false := by
    rw [List.any_eq_false]
    intro operand member
    simp [filled operand member]
  rw [apply_eq_of_ne_random different, accepted, noNull, Bool.and_false]
  exact .bind (.ofEvaluated _) (.ofEvaluated _)

variable {context : Context} {type : DeclaredType} {baseType : BaseType} {left right : Value}

theorem isNull_gives (operand : Value) :
    Gives (Operator.isNull.apply context [operand]) (.ok (.boolean operand.isNull)) := by
  have checked : Operator.isNull.signature.check Operator.isNull.name [operand] = .ok () := by
    cases operand <;> rfl
  rw [apply_eq_of_ne_random (by simp), checked]
  exact .bind (.ofEvaluated _) (.ofEvaluated _)

theorem identical_admits (fits : left.Conforms type) (based : type.baseType? = some baseType)
    (exact : baseType ∈ Accepts.matchable) :
    (Accepts.mk Accepts.scalars Accepts.matchable).Admits left := by
  intro cardinality present
  rcases fits.type_eq with rfl | ⟨sameCardinality, sameBaseType⟩
  · cases present
  rw [sameCardinality] at present
  cases present
  refine ⟨?_, .inr ⟨baseType, exact, sameBaseType.trans based⟩⟩
  cases type with
  | record => cases based
  | single | multiple | ordered => simp [Accepts.scalars, DeclaredType.cardinality]

theorem identical_check (leftFits : left.Conforms type) (rightFits : right.Conforms type)
    (based : type.baseType? = some baseType) (exact : baseType ∈ Accepts.matchable) :
    Operator.identical.signature.check Operator.identical.name [left, right] = .ok () := by
  have admits : (Signature.exactly 2 [⟨Accepts.scalars, Accepts.matchable⟩]).Admits
      [left, right] := by
    refine Signature.admits_exactly rfl ?_
    simp [identical_admits leftFits based exact, identical_admits rightFits based exact]
  exact Signature.check_eq_ok_iff.mpr admits

/-- Values of one declared type can be compared, unless one of them is NULL. -/
theorem identical_gives (leftFits : left.Conforms type) (rightFits : right.Conforms type)
    (based : type.baseType? = some baseType) (exact : baseType ∈ Accepts.matchable) :
    Gives (Operator.identical.apply context [left, right])
      (.ok (if left.isNull || right.isNull then .null else .boolean (left.equal right))) := by
  have nulls : [left, right].any Value.isNull = (left.isNull || right.isNull) := by
    simp
  have propagates : Operator.identical.signature.propagatesNull = true := rfl
  rw [apply_eq_of_ne_random (by simp), identical_check leftFits rightFits based exact, nulls,
    propagates, Bool.true_and]
  apply Gives.bind (.ofEvaluated _)
  cases missing : left.isNull || right.isNull with
  | true => exact .pure _
  | false =>
      obtain ⟨leftThere, rightThere⟩ := Bool.or_eq_false_iff.mp missing
      obtain ⟨leftCardinality, leftBaseType⟩ := leftFits.type_eq_of_notNull leftThere
      obtain ⟨rightCardinality, rightBaseType⟩ := rightFits.type_eq_of_notNull rightThere
      have compared : Comparison.identical left right = .ok (.boolean (left.equal right)) :=
        if_pos ⟨leftCardinality.trans rightCardinality.symm,
          leftBaseType.trans rightBaseType.symm⟩
      have computed : Operator.identical.compute context.store context.settings.maxContainerSize
          [left, right] = .ok (.boolean (left.equal right)) :=
        compared
      rw [computed]
      exact .ofEvaluated _

end Operator
end Assessment
