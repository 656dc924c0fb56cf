import Assessment.Proofs.Lockstep
import Assessment.Proofs.Write

/-!
# What rules may write

A rule changes only what its assignments name.  The value of a variable belongs to the
assignments of its role, its default and its correct response to one kind of
assignments each, and nothing else about it ever changes.
-/

namespace Assessment

/-- One of the assignments has the given kind and target. -/
def Assignment.Named (assignments : List Assignment) (kind : AssignmentKind)
    (identifier : String) : Prop :=
  ∃ assignment ∈ assignments, assignment.kind = kind ∧ assignment.target = identifier

instance (assignments : List Assignment) (kind : AssignmentKind) (identifier : String) :
    Decidable (Assignment.Named assignments kind identifier) :=
  inferInstanceAs (Decidable (∃ assignment ∈ assignments,
    assignment.kind = kind ∧ assignment.target = identifier))

theorem Assignment.named_self {assignments : List Assignment} {assignment : Assignment}
    (member : assignment ∈ assignments) :
    Named assignments assignment.kind assignment.target :=
  ⟨assignment, member, rfl, rfl⟩

/-- The role apart from the correct response: mappings, tables, bounds and flags. -/
def Role.withoutCorrect : Role → Role
  | .response info => .response { info with correct := .null }
  | role => role

theorem Role.kind_withoutCorrect (role : Role) : role.withoutCorrect.kind = role.kind := by
  cases role <;> rfl

/-! ## Frames of variables -/

namespace Variable

/-- The variable is the same after the assignments, apart from its value and from the
default and the correct response if they are named. -/
structure KeptBesidesValue (assignments : List Assignment) (before after : Variable) :
    Prop where
  identifier : after.identifier = before.identifier
  type : after.type = before.type
  withoutCorrect : after.role.withoutCorrect = before.role.withoutCorrect
  defaultValue : after.defaultValue ≠ before.defaultValue →
    Assignment.Named assignments .defaultValue before.identifier
  correct : after.correct? ≠ before.correct? →
    Assignment.Named assignments .correctResponse before.identifier

/-- The value is also the same, unless an assignment for the role of the variable
names it. -/
structure Framed (assignments : List Assignment) (before after : Variable) : Prop
    extends KeptBesidesValue assignments before after where
  value : after.value ≠ before.value →
    (before.role.kind = .outcome ∧
      (Assignment.Named assignments .outcomeValue before.identifier ∨
        Assignment.Named assignments .outcomeLookup before.identifier)) ∨
    (before.role.kind = .template ∧
      Assignment.Named assignments .templateValue before.identifier)

variable {assignments : List Assignment} {before after : Variable}

namespace KeptBesidesValue

theorem refl (v : Variable) : KeptBesidesValue assignments v v where
  identifier := rfl
  type := rfl
  withoutCorrect := rfl
  defaultValue changed := absurd rfl changed
  correct changed := absurd rfl changed

theorem roleKind (kept : before.KeptBesidesValue assignments after) :
    after.role.kind = before.role.kind := by
  have kinds := congrArg Role.kind kept.withoutCorrect
  simpa only [Role.kind_withoutCorrect] using kinds

theorem put (kept : before.KeptBesidesValue assignments after) {assignment : Assignment}
    (member : assignment ∈ assignments) (target : assignment.target = before.identifier)
    (value : Value) :
    before.KeptBesidesValue assignments (assignment.kind.put value after) := by
  have named := Assignment.named_self member
  rw [target] at named
  cases kind : assignment.kind with
  | outcomeValue =>
      exact ⟨kept.identifier, kept.type, kept.withoutCorrect, kept.defaultValue, kept.correct⟩
  | templateValue =>
      exact ⟨kept.identifier, kept.type, kept.withoutCorrect, kept.defaultValue, kept.correct⟩
  | outcomeLookup =>
      exact ⟨kept.identifier, kept.type, kept.withoutCorrect, kept.defaultValue, kept.correct⟩
  | defaultValue =>
      rw [kind] at named
      exact ⟨kept.identifier, kept.type, kept.withoutCorrect, fun _ => named, kept.correct⟩
  | correctResponse =>
      rw [kind] at named
      obtain ⟨identifier, type, role, old, defaultValue⟩ := after
      cases role with
      | response info =>
          exact ⟨kept.identifier, kept.type, kept.withoutCorrect, kept.defaultValue,
            fun _ => named⟩
      | outcome info => exact kept
      | template info => exact kept

/-- A write that changes the value comes from an assignment for the role. -/
theorem named_of_value_put_ne (kept : before.KeptBesidesValue assignments after)
    {assignment : Assignment} (member : assignment ∈ assignments)
    (target : assignment.target = before.identifier)
    (role : ∀ role, assignment.kind.role? = some role → after.role.kind = role)
    {value : Value} (changed : (assignment.kind.put value after).value ≠ after.value) :
    (before.role.kind = .outcome ∧
      (Assignment.Named assignments .outcomeValue before.identifier ∨
        Assignment.Named assignments .outcomeLookup before.identifier)) ∨
    (before.role.kind = .template ∧
      Assignment.Named assignments .templateValue before.identifier) := by
  have named := Assignment.named_self member
  rw [target] at named
  rw [kept.roleKind] at role
  rcases AssignmentKind.kind_of_value_put_ne changed with kind | kind | kind <;>
    rw [kind] at named role
  · exact .inl ⟨role .outcome rfl, .inl named⟩
  · exact .inl ⟨role .outcome rfl, .inr named⟩
  · exact .inr ⟨role .template rfl, named⟩

end KeptBesidesValue

namespace Framed

theorem refl (v : Variable) : Framed assignments v v where
  toKeptBesidesValue := KeptBesidesValue.refl v
  value changed := absurd rfl changed

/-- One more write, to a variable of the role that the assignment needs. -/
theorem put (framed : before.Framed assignments after) {assignment : Assignment}
    (member : assignment ∈ assignments) (target : assignment.target = before.identifier)
    (role : ∀ role, assignment.kind.role? = some role → after.role.kind = role)
    (value : Value) : before.Framed assignments (assignment.kind.put value after) where
  toKeptBesidesValue := framed.toKeptBesidesValue.put member target value
  value := by
    by_cases same : (assignment.kind.put value after).value = after.value
    · rw [same]
      exact framed.value
    · exact fun _ => framed.named_of_value_put_ne member target role same

theorem responseValue (framed : before.Framed assignments after)
    (response : before.role.kind = .response) : after.value = before.value := by
  refine Decidable.byContradiction fun changed => ?_
  rcases framed.value changed with ⟨outcome, _⟩ | ⟨template, _⟩
  · rw [response] at outcome
    cases outcome
  · rw [response] at template
    cases template

end Framed

end Variable

/-! ## Frames of stores -/

/-- The store has the same variables, each related to what it was. -/
structure Store.Related (relation : Variable → Variable → Prop) (before after : Store) :
    Prop where
  identifiers : after.identifiers = before.identifiers
  pointwise : ∀ identifier v, before.get? identifier = some v →
    ∃ w, after.get? identifier = some w ∧ relation v w

namespace Store.Related

variable {relation : Variable → Variable → Prop} {before middle : Store}

theorem refl (reflexive : ∀ v, relation v v) (store : Store) : Related relation store store where
  identifiers := rfl
  pointwise _ v found := ⟨v, found, reflexive v⟩

/-- A write keeps the stores related if it keeps the variables related. -/
theorem update (related : before.Related relation middle) {identifier : String}
    {change : Variable → Variable} (keepsName : ∀ v, (change v).identifier = v.identifier)
    (keeps : ∀ v w, before.get? identifier = some v → middle.get? identifier = some w →
      relation v w → relation v (change w)) :
    before.Related relation (middle.update identifier change) where
  identifiers := (identifiers_update keepsName).trans related.identifiers
  pointwise := by
    intro wanted v found
    obtain ⟨w, foundMiddle, relatedVariables⟩ := related.pointwise wanted v found
    rw [get?_update keepsName]
    by_cases target : wanted = identifier
    · subst target
      rw [if_pos rfl, foundMiddle]
      exact ⟨change w, rfl, keeps v w found foundMiddle relatedVariables⟩
    · rw [if_neg target]
      exact ⟨w, foundMiddle, relatedVariables⟩

theorem resetWhere {other : Variable → Variable → Prop}
    (related : before.Related relation middle) (condition : Variable → Bool)
    (reset : ∀ v w, relation v w → other v (if condition w then w.reset else w)) :
    before.Related other (middle.resetWhere condition) where
  identifiers := (identifiers_resetWhere condition).trans related.identifiers
  pointwise := by
    intro wanted v found
    obtain ⟨w, foundMiddle, relatedVariables⟩ := related.pointwise wanted v found
    rw [get?_resetWhere, foundMiddle]
    exact ⟨_, rfl, reset v w relatedVariables⟩

theorem mono {other : Variable → Variable → Prop} (related : before.Related relation middle)
    (weaker : ∀ v w, relation v w → other v w) : before.Related other middle where
  identifiers := related.identifiers
  pointwise identifier v found := by
    obtain ⟨w, foundMiddle, relatedVariables⟩ := related.pointwise identifier v found
    exact ⟨w, foundMiddle, weaker v w relatedVariables⟩

/-- Stores without repetitions that are related by equality are equal. -/
theorem eq_of_forall (related : before.Related relation middle) (distinct : before.Distinct)
    (same : ∀ identifier v w, before.get? identifier = some v → relation v w → w = v) :
    middle = before := by
  refine distinct.eq_of_views related.identifiers fun identifier => ?_
  cases found : before.get? identifier with
  | none =>
      rw [get?_eq_none_iff, ← related.identifiers] at found
      exact get?_eq_none_iff.mpr found
  | some v =>
      obtain ⟨w, foundMiddle, relatedVariables⟩ := related.pointwise identifier v found
      rw [foundMiddle, same identifier v w found relatedVariables]

end Store.Related

/-! ## Rules -/

/-- A relation that survives every write of an assignment survives the assignment. -/
theorem Assignment.execute_keeps_related {relation : Variable → Variable → Prop}
    {before : Store} (environment : Environment) (assignment : Assignment)
    (keeps : ∀ v w value, v.identifier = assignment.target →
      (∀ role, assignment.kind.role? = some role → w.role.kind = role) →
      relation v w → relation v (assignment.kind.put value w)) :
    Keeps (before.Related relation) (assignment.execute environment).run := by
  intro progress related
  rcases assignment.execute_cases environment progress with
    ⟨signal, _, unchanged⟩ | ⟨_, target, coerced, wrote⟩
  · rw [unchanged]
    exact related
  · rw [wrote.result]
    refine related.update (fun _ => AssignmentKind.identifier_put) fun v w found foundNow => ?_
    rw [wrote.found] at foundNow
    cases foundNow
    exact keeps v target coerced (Store.identifier_of_get? found) wrote.role

namespace Rule

/-- A single assignment that does not succeed changes nothing. -/
theorem store_execute_assign_of_error {environment : Environment} {assignment : Assignment}
    {progress : Progress} {signal : Signal}
    (failed : (((Rule.assign assignment).execute environment).run.run progress).1 =
      .error signal) :
    (((Rule.assign assignment).execute environment).run.run progress).2.store =
      progress.store := by
  unfold execute at failed ⊢
  by_cases shallow : 1 ≤ environment.settings.maxRuleDepth
  · rw [run_executeAt_assign shallow] at failed ⊢
    rcases assignment.execute_cases environment
        (progress.note (Rule.assign assignment).line) with
      ⟨_, _, unchanged⟩ | ⟨completed, _⟩
    · exact unchanged
    · rw [completed] at failed
      cases failed
  · rw [run_executeAt_deep (Nat.lt_of_not_le shallow)]

/-- Whatever a rule ends with, it has changed values only of outcome and template
variables, and only what its assignments name; the values of responses stay, and so
does the whole store if the rule is a single assignment that fails. -/
theorem execute_framed (environment : Environment) (rule : Rule) (progress : Progress) :
    let after := (rule.execute environment).run.run progress
    progress.store.Related (Variable.Framed rule.assignments) after.2.store ∧
      (∀ identifier v w, progress.store.get? identifier = some v →
        after.2.store.get? identifier = some w → v.role.kind = .response →
        w.value = v.value) ∧
      ∀ assignment signal, rule = .assign assignment → after.1 = .error signal →
        after.2.store = progress.store := by
  intro after
  have keeps : Keeps (progress.store.Related (Variable.Framed rule.assignments))
      (rule.execute environment).run :=
    rule.execute_keeps fun assignment member =>
      assignment.execute_keeps_related environment fun v w value target role framed =>
        framed.put member target.symm role value
  have framed := keeps progress (Store.Related.refl Variable.Framed.refl progress.store)
  refine ⟨framed, ?_, ?_⟩
  · intro identifier v w found foundAfter response
    obtain ⟨same, foundSame, variableFramed⟩ := framed.pointwise identifier v found
    rw [foundAfter] at foundSame
    cases foundSame
    exact variableFramed.responseValue response
  · rintro assignment signal rfl failed
    exact store_execute_assign_of_error failed

/-- A response without tables, and an outcome. -/
def responseAndScore : Store :=
  ⟨[⟨"RESPONSE", .single .identifier, .response ⟨.null, none, none⟩, .null, .null⟩,
    ⟨"SCORE", .single .integer, .outcome ⟨none, none, none, none⟩, .integer 0, .null⟩]⟩

theorem execute_framed_wrong_role :
    let progress : Progress := ⟨responseAndScore, .ofSeed 0, #[]⟩
    let rule := Rule.set .templateValue "SCORE" (.baseValue (.integer 1))
    let after := (rule.execute ⟨.default, .standard⟩).run.run progress
    responseAndScore.Related (Variable.Framed rule.assignments) after.2.store ∧
      after.1 = .error (.failure (.invalidTarget "setTemplateValue" "SCORE"
        (.wrongRole .template .outcome))) ∧
      after.2.store = responseAndScore := by
  intro progress rule after
  have failed : after.1 = .error (.failure (.invalidTarget "setTemplateValue" "SCORE"
      (.wrongRole .template .outcome))) := rfl
  obtain ⟨framed, _, unchanged⟩ := execute_framed ⟨.default, .standard⟩ rule progress
  exact ⟨framed, failed, unchanged _ _ rfl failed⟩

end Rule

end Assessment
