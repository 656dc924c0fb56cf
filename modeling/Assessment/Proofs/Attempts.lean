import Assessment.Proofs.WriteFrame

/-!
# Attempts of template processing

Template processing starts again as long as a constraint is not satisfied.  Every
attempt begins with template variables at their defaults, but this is all that is
undone: defaults, correct responses and outcomes stay as a discarded attempt left
them.  Only attempts that assign nothing but template values leave no trace.
-/

namespace Assessment

/-! ## Variables at the beginning of an attempt -/

namespace Variable

/-- The variable is the same after the assignments, apart from what they name and from
the values of template variables. -/
structure KeptBesidesTemplate (assignments : List Assignment) (before after : Variable) :
    Prop extends KeptBesidesValue assignments before after where
  value : before.role.kind ≠ .template → after.value ≠ before.value →
    before.role.kind = .outcome ∧
      (Assignment.Named assignments .outcomeValue before.identifier ∨
        Assignment.Named assignments .outcomeLookup before.identifier)

/-- Moreover, a template variable has the value that it starts with. -/
structure Restarted (assignments : List Assignment) (before after : Variable) : Prop
    extends KeptBesidesTemplate assignments before after where
  template : before.role.kind = .template → after.value = after.initialValue

variable {assignments : List Assignment} {before after : Variable}

namespace KeptBesidesTemplate

theorem put (kept : before.KeptBesidesTemplate assignments after) {assignment : Assignment}
    (member : assignment ∈ assignments) (target : assignment.target = before.identifier)
    (role : ∀ role, assignment.kind.role? = some role → after.role.kind = role)
    (value : Value) :
    before.KeptBesidesTemplate assignments (assignment.kind.put value after) where
  toKeptBesidesValue := kept.toKeptBesidesValue.put member target value
  value := by
    intro other
    by_cases same : (assignment.kind.put value after).value = after.value
    · rw [same]
      exact kept.value other
    · rcases kept.named_of_value_put_ne member target role same with outcome | ⟨template, _⟩
      · exact fun _ => outcome
      · exact absurd template other

/-- A reset concerns template variables only. -/
theorem reset (kept : before.KeptBesidesTemplate assignments after) :
    before.Restarted assignments
      (if after.role.kind == .template then after.reset else after) := by
  by_cases template : after.role.kind = .template
  · rw [if_pos (by simpa using template)]
    rw [kept.roleKind] at template
    exact
      { identifier := kept.identifier
        type := kept.type
        withoutCorrect := kept.withoutCorrect
        defaultValue := kept.defaultValue
        correct := kept.correct
        value := fun other => absurd template other
        template := fun _ => rfl }
  · rw [if_neg (by simpa using template)]
    rw [kept.roleKind] at template
    exact ⟨kept, fun wanted => absurd wanted template⟩

end KeptBesidesTemplate

theorem role_eq_of_correct?
    (withoutCorrect : after.role.withoutCorrect = before.role.withoutCorrect)
    (correct : after.correct? = before.correct?) : after.role = before.role := by
  obtain ⟨_, _, ⟨⟨_, _, _⟩⟩ | _ | _, _, _⟩ := after <;>
    obtain ⟨_, _, ⟨⟨_, _, _⟩⟩ | _ | _, _, _⟩ := before <;>
    simp_all [Role.withoutCorrect, correct?, responseInfo?]

/-- Assignments of template values leave nothing behind in a variable that starts
again. -/
theorem Restarted.eq_of_templateValues (restarted : before.Restarted assignments after)
    (only : ∀ assignment ∈ assignments, assignment.kind = .templateValue)
    (fresh : before.role.kind = .template → before.value = before.initialValue) :
    after = before := by
  have unnamed : ∀ kind, kind ≠ .templateValue →
      ¬ Assignment.Named assignments kind before.identifier := by
    rintro kind different ⟨assignment, member, rfl, _⟩
    exact different (only assignment member)
  have defaultValue : after.defaultValue = before.defaultValue :=
    Decidable.byContradiction fun changed =>
      unnamed .defaultValue (by decide) (restarted.defaultValue changed)
  have correct : after.correct? = before.correct? :=
    Decidable.byContradiction fun changed =>
      unnamed .correctResponse (by decide) (restarted.correct changed)
  have role := role_eq_of_correct? restarted.withoutCorrect correct
  have value : after.value = before.value := by
    by_cases template : before.role.kind = .template
    · rw [restarted.template template, fresh template]
      simp only [initialValue, defaultValue, role, restarted.type]
    · refine Decidable.byContradiction fun changed => ?_
      obtain ⟨_, assigned | lookedUp⟩ := restarted.value template changed
      · exact unnamed .outcomeValue (by decide) assigned
      · exact unnamed .outcomeLookup (by decide) lookedUp
  have identifier := restarted.identifier
  have type := restarted.type
  cases after
  cases before
  simp_all

end Variable

/-! ## Stores at the beginning of an attempt -/

namespace Store

variable {assignments : List Assignment} {store start : Store}

theorem value_of_get?_resetTemplates {identifier : String} {v : Variable}
    (found : store.resetTemplates.get? identifier = some v)
    (template : v.role.kind = .template) : v.value = v.initialValue := by
  unfold resetTemplates at found
  rw [get?_resetWhere] at found
  obtain ⟨old, _, rfl⟩ := Option.map_eq_some_iff.mp found
  by_cases wasTemplate : old.role.kind = .template
  · rw [if_pos (by simpa using wasTemplate)]
    rfl
  · rw [if_neg (by simpa using wasTemplate)] at template
    exact absurd template wasTemplate

theorem related_restarted_self (store : Store) :
    store.resetTemplates.Related (Variable.Restarted assignments) store.resetTemplates where
  identifiers := rfl
  pointwise := by
    intro identifier v found
    refine ⟨v, found, ⟨Variable.KeptBesidesValue.refl v, ?_⟩, ?_⟩
    · exact fun _ changed => absurd rfl changed
    · exact value_of_get?_resetTemplates found

/-- What an attempt can begin with, in place of the store of the caller with reset
template variables: the same store apart from what discarded attempts have assigned,
and the same one altogether if these have only assigned template values. -/
structure Restarted (assignments : List Assignment) (start store : Store) : Prop where
  related : start.Related (Variable.Restarted assignments) store
  eq_of_templateValues : start.Distinct →
    (∀ assignment ∈ assignments, assignment.kind = .templateValue) → store = start

theorem restarted_of_related {caller : Store}
    (related : caller.resetTemplates.Related (Variable.Restarted assignments) store) :
    Restarted assignments caller.resetTemplates store where
  related := related
  eq_of_templateValues distinct only := by
    refine related.eq_of_forall distinct fun identifier v w found restarted => ?_
    exact restarted.eq_of_templateValues only (value_of_get?_resetTemplates found)

end Store

/-! ## Attempts -/

namespace Engine

/-- Progress with its template variables reset. -/
def restart (progress : Progress) : Progress :=
  { progress with store := progress.store.resetTemplates }

/-- The progress at the beginning of an attempt, after so many that were discarded. -/
inductive Begins (environment : Environment) (rules : List Rule) (caller : Progress) :
    Nat → Progress → Prop where
  | first : Begins environment rules caller 0 (restart caller)
  | again {discarded : Nat} {begun after : Progress} :
      Begins environment rules caller discarded begun →
      (Rule.executeAll environment rules).run.run begun =
        (.error (.interruption .constraintUnsatisfied), after) →
      Begins environment rules caller (discarded + 1) (restart after)

/-- What a run gives that ends in an attempt of the given number. -/
def conclude (number : Nat) : Except Signal Unit → Except ProcessingError Report
  | .ok () => .ok ⟨false, number, true⟩
  | .error (.interruption (.exit .template)) => .ok ⟨true, number, true⟩
  | .error signal => .error (.rule (signal.asError .template))

/-- How a run with a limit of attempts ends: in an attempt that is not discarded, or
where another attempt would begin. -/
inductive Ends (environment : Environment) (rules : List Rule) (caller : Progress)
    (limit : Nat) : Except ProcessingError Report × Progress → Prop where
  | decided {discarded : Nat} {begun after : Progress} {result : Except Signal Unit} :
      Begins environment rules caller discarded begun → discarded < limit →
      (Rule.executeAll environment rules).run.run begun = (result, after) →
      result ≠ .error (.interruption .constraintUnsatisfied) →
      Ends environment rules caller limit (conclude (discarded + 1) result, after)
  | exhausted {begun : Progress} :
      Begins environment rules caller limit begun →
      Ends environment rules caller limit (.ok ⟨false, limit, false⟩, begun)

variable {environment : Environment} {rules : List Rule} {caller : Progress}

/-- One attempt, and then another one if it is discarded. -/
theorem run_attempt (progress : Progress) (discarded more : Nat)
    {result : Except Signal Unit} {after : Progress}
    (ended : (Rule.executeAll environment rules).run.run (restart progress) =
      (result, after)) :
    (result = .error (.interruption .constraintUnsatisfied) →
      (attempt environment rules discarded (more + 1)).run progress =
        (attempt environment rules (discarded + 1) more).run after) ∧
    (result ≠ .error (.interruption .constraintUnsatisfied) →
      (attempt environment rules discarded (more + 1)).run progress =
        (conclude (discarded + 1) result, after)) := by
  have step : ∀ next : Except Signal Unit → Run,
      (do
        resetTemplates
        let result ← (Rule.executeAll environment rules).run
        next result : Run).run progress =
      (next ((Rule.executeAll environment rules).run.run (restart progress)).1).run
        ((Rule.executeAll environment rules).run.run (restart progress)).2 :=
    fun _ => rfl
  rw [attempt, step, ended]
  match result with
  | .error (.interruption .constraintUnsatisfied) =>
      exact ⟨fun _ => rfl, fun decided => absurd rfl decided⟩
  | .ok () => exact ⟨nofun, fun _ => rfl⟩
  | .error (.interruption (.exit .response)) => exact ⟨nofun, fun _ => rfl⟩
  | .error (.interruption (.exit .template)) => exact ⟨nofun, fun _ => rfl⟩
  | .error (.interruption (.exit .test)) => exact ⟨nofun, fun _ => rfl⟩
  | .error (.failure error) => exact ⟨nofun, fun _ => rfl⟩

/-- The attempts of a run are those that begin one after another, up to the limit. -/
theorem attempt_ends {progress : Progress} {discarded : Nat} (more : Nat)
    (begins : Begins environment rules caller discarded (restart progress)) :
    Ends environment rules caller (discarded + more)
      ((attempt environment rules discarded more).run progress) := by
  induction more generalizing discarded progress with
  | zero => exact .exhausted begins
  | succ more induction =>
      rcases ended : (Rule.executeAll environment rules).run.run (restart progress)
        with ⟨result, after⟩
      obtain ⟨again, concluded⟩ := run_attempt progress discarded more ended
      by_cases unsatisfied : result = .error (.interruption .constraintUnsatisfied)
      · rw [again unsatisfied]
        rw [unsatisfied] at ended
        have rest := induction (begins.again ended)
        rwa [Nat.add_right_comm] at rest
      · rw [concluded unsatisfied]
        exact .decided begins (by omega) ended unsatisfied

/-! ## What discarded attempts leave behind -/

/-- By induction on the discarded attempts: each of them keeps what it does not name,
and the restart after it puts the template variables right. -/
theorem Begins.restarted {discarded : Nat} {begun : Progress}
    (begins : Begins environment rules caller discarded begun) :
    Store.Restarted (Rule.assignmentsOfAll rules) caller.store.resetTemplates
      begun.store := by
  refine Store.restarted_of_related ?_
  induction begins with
  | first => exact caller.store.related_restarted_self
  | @again discarded begun after _ ended induction =>
      have keeps : Keeps (caller.store.resetTemplates.Related
          (Variable.KeptBesidesTemplate (Rule.assignmentsOfAll rules)))
          (Rule.executeAll environment rules).run :=
        Rule.executeAll_keeps rules fun assignment member =>
          assignment.execute_keeps_related environment fun v w value target role kept =>
            kept.put member target.symm role value
      have related := keeps begun
        (induction.mono fun _ _ restarted => restarted.toKeptBesidesTemplate)
      rw [ended] at related
      exact related.resetWhere _ fun _ _ kept => kept.reset

theorem constraintSatisfied_of_conclude {number : Nat} {result : Except Signal Unit}
    {report : Report} (concluded : conclude number result = .ok report) :
    report.constraintSatisfied = true := by
  unfold conclude at concluded
  split at concluded
  next => cases concluded; rfl
  next => cases concluded; rfl
  next => cases concluded

/-- Every attempt of template processing begins with template variables at their
defaults and otherwise with what the discarded attempts have left behind, and so does
the store end if no attempt satisfies the constraints. -/
theorem runTemplate_restarts (environment : Environment) (rules : List Rule)
    (caller : Progress) :
    let start := caller.store.resetTemplates
    let final := (runTemplate environment rules).run caller
    (∀ discarded begun, Begins environment rules caller discarded begun →
      Store.Restarted (Rule.assignmentsOfAll rules) start begun.store) ∧
    Ends environment rules caller (max environment.settings.maxTemplateAttempts 1) final ∧
    ∀ report, final.1 = .ok report → report.constraintSatisfied = false →
      Store.Restarted (Rule.assignmentsOfAll rules) start final.2.store := by
  intro start final
  have ends : Ends environment rules caller
      (max environment.settings.maxTemplateAttempts 1) final := by
    have begins : Begins environment rules caller 0 (restart caller) := .first
    have reached := attempt_ends (max environment.settings.maxTemplateAttempts 1) begins
    rwa [Nat.zero_add] at reached
  refine ⟨fun _ _ begins => begins.restarted, ends, ?_⟩
  intro report reported unsatisfied
  generalize final = ended at ends reported
  cases ends with
  | decided _ _ _ _ =>
      rw [constraintSatisfied_of_conclude reported] at unsatisfied
      cases unsatisfied
  | exhausted begins => exact begins.restarted

/-- An outcome at zero, and a template variable that starts at one. -/
def scoreAndTemplate : Progress where
  store :=
    ⟨[⟨"SCORE", .single .integer, .outcome ⟨none, none, none, none⟩, .integer 0, .null⟩,
      ⟨"A", .single .integer, .template ⟨false, false⟩, .null, .integer 1⟩]⟩
  source := .ofSeed 0
  trace := #[]

def twoAttempts : Environment :=
  ⟨{ Settings.default with maxTemplateAttempts := 2 }, .standard⟩

theorem runTemplate_restarts_discarded_templateValue :
    let rules := [.set .templateValue "A" (.baseValue (.integer 3)),
      .constraint (.baseValue (.boolean false))]
    let final := (runTemplate twoAttempts rules).run scoreAndTemplate
    final.1 = .ok ⟨false, 2, false⟩ ∧
      final.2.store = scoreAndTemplate.store.resetTemplates ∧
      final.2.store.value? "A" = some (.integer 1) := by
  intro rules final
  have reported : final.1 = .ok ⟨false, 2, false⟩ := rfl
  have restarted := (runTemplate_restarts twoAttempts rules scoreAndTemplate).2.2 _ reported rfl
  have unchanged := restarted.eq_of_templateValues (by unfold Store.Distinct; decide) (by
    intro assignment member
    rw [List.mem_singleton.mp member])
  exact ⟨reported, unchanged, by rw [unchanged]; rfl⟩

/-- An attempt that is discarded leaves the outcome behind that it has assigned. -/
theorem runTemplate_discarded_outcomeValue_stays :
    let rules := [.set .outcomeValue "SCORE" (.baseValue (.integer 5)),
      .constraint (.baseValue (.boolean false))]
    let start := scoreAndTemplate.store.resetTemplates
    let final := (runTemplate twoAttempts rules).run scoreAndTemplate
    (∃ begun, Begins twoAttempts rules scoreAndTemplate 1 begun ∧ begun.store ≠ start) ∧
      final.1 = .ok ⟨false, 2, false⟩ ∧ final.2.store ≠ start := by
  intro rules start final
  have differs : ∀ store : Store, store.value? "SCORE" = some (.integer 5) →
      store ≠ start := by
    rintro store scored rfl
    exact absurd scored (by decide)
  refine ⟨⟨_, .again .first rfl, differs _ ?_⟩, ?_, differs _ ?_⟩
  · rfl
  · rfl
  · rfl

end Engine

end Assessment
