import Assessment.Proofs.Run
import Assessment.Proofs.StoreView

/-!
# What an assignment writes

An assignment either ends with a signal and leaves the store as it is, or it puts one
value of the declared type into one place of one variable.  `Assignment.execute_cases`
is this alternative; everything about the effects of rules goes back to it.
-/

namespace Assessment

namespace AssignmentKind

/-- Puts a value in the place that assignments of this kind write. -/
def put : AssignmentKind → Value → Variable → Variable
  | .outcomeValue => Variable.setValue
  | .templateValue => Variable.setValue
  | .outcomeLookup => Variable.setValue
  | .correctResponse => Variable.setCorrect
  | .defaultValue => Variable.setDefault

variable {kind : AssignmentKind} {value : Value} {v : Variable}

theorem identifier_put : (kind.put value v).identifier = v.identifier := by
  cases kind <;> simp only [put, Variable.setValue, Variable.setDefault, Variable.setCorrect]
  split <;> rfl

theorem type_put : (kind.put value v).type = v.type := by
  cases kind <;> simp only [put, Variable.setValue, Variable.setDefault, Variable.setCorrect]
  split <;> rfl

theorem roleKind_put : (kind.put value v).role.kind = v.role.kind := by
  cases kind <;> simp only [put, Variable.setValue, Variable.setDefault, Variable.setCorrect]
  split
  next info response => rw [response]; rfl
  next => rfl

/-- Only three kinds of assignments write values. -/
theorem kind_of_value_put_ne (changed : (kind.put value v).value ≠ v.value) :
    kind = .outcomeValue ∨ kind = .outcomeLookup ∨ kind = .templateValue := by
  cases kind with
  | outcomeValue => exact .inl rfl
  | outcomeLookup => exact .inr (.inl rfl)
  | templateValue => exact .inr (.inr rfl)
  | defaultValue => exact absurd rfl changed
  | correctResponse =>
      refine absurd ?_ changed
      simp only [put, Variable.setCorrect]
      split <;> rfl

end AssignmentKind

/-- Writes a value to the place of a kind of assignments after coercing it to the
declared type. -/
def Store.assign (store : Store) (kind : AssignmentKind) (identifier : String)
    (value : Value) : Except StoreError Store := do
  let v ← store.get identifier
  let coerced ← v.coerce value
  return store.update identifier (kind.put coerced)

theorem Store.assign_eq (store : Store) (kind : AssignmentKind) (identifier : String)
    (value : Value) :
    store.assign kind identifier value =
      match store.get? identifier with
      | none => .error (.unknownVariable identifier)
      | some v =>
          match v.type.coerce? value with
          | none => .error (.incompatible v.identifier v.type.text value.typeName)
          | some coerced => .ok (store.update identifier (kind.put coerced)) := by
  unfold assign get Variable.coerce
  cases store.get? identifier with
  | none => rfl
  | some v =>
      simp only [Bind.bind, Except.bind]
      cases v.type.coerce? value <;> rfl

namespace Store

variable {store : Store} {identifier : String} {v : Variable} {value coerced : Value}

theorem setValue_unknown (missing : store.get? identifier = none) (value : Value) :
    store.setValue identifier value = .error (.unknownVariable identifier) := by
  have assigned := store.assign_eq .outcomeValue identifier value
  rw [missing] at assigned
  exact assigned

theorem setValue_incompatible (found : store.get? identifier = some v)
    (misfit : v.type.coerce? value = none) :
    store.setValue identifier value =
      .error (.incompatible identifier v.type.text value.typeName) := by
  have assigned := store.assign_eq .outcomeValue identifier value
  simp only [found, misfit, identifier_of_get? found] at assigned
  exact assigned

theorem setValue_fits (found : store.get? identifier = some v)
    (fits : v.type.coerce? value = some coerced) :
    store.setValue identifier value =
      .ok (store.update identifier (Variable.setValue coerced)) := by
  have assigned := store.assign_eq .outcomeValue identifier value
  simp only [found, fits] at assigned
  exact assigned

end Store

namespace Assignment

/-- The value that an assignment writes when its expression has the given value. -/
def written (assignment : Assignment) (v : Variable) (value : Value) :
    Except RuleError Value :=
  match assignment.kind with
  | .outcomeLookup => v.lookUp value
  | _ => .ok value

theorem store_eq (assignment : Assignment) (v : Variable) (value : Value) :
    assignment.store v value =
      match assignment.written v value with
      | .ok found =>
          Execution.write assignment.kind.className fun store =>
            store.assign assignment.kind assignment.target found
      | .error error => Execution.fail error := by
  obtain ⟨kind, target, expression⟩ := assignment
  cases kind with
  | outcomeLookup =>
      simp only [store, written]
      cases v.lookUp value <;> rfl
  | outcomeValue => rfl
  | templateValue => rfl
  | correctResponse => rfl
  | defaultValue => rfl

theorem run_execute (environment : Environment) (assignment : Assignment)
    (progress : Progress) :
    (assignment.execute environment).run.run progress =
      match assignment.target? progress.store with
      | .error error => (.error (.failure error), progress)
      | .ok v =>
          (Execution.evaluate environment assignment.kind.className assignment.expression >>=
            assignment.store v).run.run progress := by
  unfold execute
  rw [Execution.run_bind]
  simp only [Execution.run_get]
  cases assignment.target? progress.store <;> rfl

/-- The assignment has put a value of the declared type into its target, which has the
role that it needs. -/
structure Wrote (assignment : Assignment) (before after : Store) (v : Variable)
    (coerced : Value) : Prop where
  found : before.get? assignment.target = some v
  role : ∀ role, assignment.kind.role? = some role → v.role.kind = role
  fits : ∃ value, v.type.coerce? value = some coerced
  result : after = before.update assignment.target (assignment.kind.put coerced)

theorem target?_eq_ok {assignment : Assignment} {store : Store} {v : Variable}
    (found : assignment.target? store = .ok v) :
    store.get? assignment.target = some v ∧
      ∀ role, assignment.kind.role? = some role → v.role.kind = role := by
  unfold target? Store.get at found
  cases looked : store.get? assignment.target with
  | none => simp [looked] at found
  | some w =>
      simp only [looked] at found
      cases needed : assignment.kind.role? with
      | none =>
          simp only [needed, Except.ok.injEq] at found
          exact ⟨by rw [found], by simp⟩
      | some role =>
          simp only [needed] at found
          split at found
          next fitting =>
            cases found
            exact ⟨rfl, by simpa using fitting⟩
          next => cases found

/-- The alternative for a single assignment: a signal and no change, or no signal and
one value written. -/
theorem execute_cases (environment : Environment) (assignment : Assignment)
    (progress : Progress) :
    (∃ signal, ((assignment.execute environment).run.run progress).1 = .error signal ∧
      ((assignment.execute environment).run.run progress).2.store = progress.store) ∨
    (((assignment.execute environment).run.run progress).1 = .ok () ∧
      ∃ v coerced, assignment.Wrote progress.store
        ((assignment.execute environment).run.run progress).2.store v coerced) := by
  rw [run_execute]
  cases target : assignment.target? progress.store with
  | error error => exact .inl ⟨_, rfl, rfl⟩
  | ok v =>
      obtain ⟨found, role⟩ := target?_eq_ok target
      simp only [Execution.run_bind, Execution.run_evaluate]
      generalize (assignment.expression.evaluate
        (environment.over progress.store)).run.run progress.source = drawn
      obtain ⟨result, source⟩ := drawn
      cases result with
      | error cause => exact .inl ⟨_, rfl, rfl⟩
      | ok value =>
          simp only [Execution.ofEvaluated, store_eq]
          cases assignment.written v value with
          | error error => exact .inl ⟨_, rfl, rfl⟩
          | ok wanted =>
              simp only [Execution.run_write, Store.assign_eq, found]
              cases coerced : v.type.coerce? wanted with
              | none => exact .inl ⟨_, rfl, rfl⟩
              | some coercedValue =>
                  exact .inr ⟨rfl, v, coercedValue, found, role, ⟨wanted, coerced⟩, rfl⟩

end Assignment

end Assessment
