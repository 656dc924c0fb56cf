import Assessment.Proofs.Lockstep
import Assessment.Proofs.TypedReading

/-!
# Variables stay what they were declared to be

However an attempt goes on, with values stored and processors run in any order, its
store keeps the declarations of its document, and every value in it is NULL or of the
declared type.
-/

namespace Assessment

/-- What a declaration fixes for good. -/
structure Heading where
  identifier : String
  type : DeclaredType
  kind : RoleKind
  deriving DecidableEq

def Variable.heading (v : Variable) : Heading :=
  ⟨v.identifier, v.type, v.role.kind⟩

/-- The declarations of a store in their order. -/
def Store.headings (store : Store) : List Heading :=
  store.declared.map Variable.heading

/-! ## Headings under writes and resets -/

namespace Store

variable {store : Store}

theorem headings_update {identifier : String} {change : Variable → Variable}
    (keeps : ∀ v, (change v).heading = v.heading) :
    (store.update identifier change).headings = store.headings :=
  map_declared_update (fun v => congrArg Heading.identifier (keeps v)) keeps

theorem headings_resetWhere (condition : Variable → Bool) :
    (store.resetWhere condition).headings = store.headings := by
  simp only [headings, resetWhere, List.map_map]
  refine List.map_congr_left fun v _ => ?_
  by_cases wanted : condition v <;> simp [wanted, Variable.reset, Variable.heading]

theorem heading_put (kind : AssignmentKind) (value : Value) (v : Variable) :
    (kind.put value v).heading = v.heading := by
  simp only [Variable.heading, AssignmentKind.identifier_put, AssignmentKind.type_put,
    AssignmentKind.roleKind_put]

end Store

/-! ## Invariants of attempts -/

/-- A property of stores that is kept where a value of the declared type is put into a
variable, and where variables are reset. -/
structure Store.Stable (invariant : Store → Prop) : Prop where
  put : ∀ {store : Store} {kind : AssignmentKind} {identifier : String} {v : Variable}
    {coerced : Value}, invariant store → store.get? identifier = some v →
    coerced.Conforms v.type → invariant (store.update identifier (kind.put coerced))
  resetWhere : ∀ {store : Store}, invariant store →
    ∀ condition, invariant (store.resetWhere condition)

namespace Store.Stable

variable {invariant : Store → Prop} {store after : Store}

theorem assign (stable : Stable invariant) {kind : AssignmentKind} {identifier : String}
    {value : Value} (holds : invariant store)
    (success : store.assign kind identifier value = .ok after) : invariant after := by
  rw [Store.assign_eq] at success
  cases found : store.get? identifier with
  | none => simp [found] at success
  | some v =>
      cases coerced : v.type.coerce? value with
      | none => simp [found, coerced] at success
      | some fitting =>
          simp only [found, coerced, Except.ok.injEq] at success
          rw [← success]
          exact stable.put holds found (DeclaredType.conforms_coerce? coerced)

/-- Whatever an assignment evaluates, its target coerces what is written. -/
theorem execute (stable : Stable invariant) (environment : Environment)
    (assignment : Assignment) : Keeps invariant (assignment.execute environment).run := by
  intro progress holds
  rcases assignment.execute_cases environment progress with
    ⟨signal, _, unchanged⟩ | ⟨_, v, coerced, wrote⟩
  · rw [unchanged]
    exact holds
  · obtain ⟨value, coercion⟩ := wrote.fits
    rw [wrote.result]
    exact stable.put holds wrote.found (DeclaredType.conforms_coerce? coercion)

theorem run (stable : Stable invariant) (holds : invariant store) (environment : Environment)
    (source : RandomSource) (resolved : Except RuleError (List Rule))
    (processor : Processor) :
    invariant (processor.run environment source resolved store).store := by
  unfold Processor.run
  split
  next => exact holds
  next =>
    cases resolved with
    | error error => exact holds
    | ok rules =>
        have keeps : Keeps invariant (Engine.run environment processor.kind rules) :=
          Engine.run_keeps processor.kind rules
            (fun assignment _ => stable.execute environment assignment)
            (fun _ holds => stable.resetWhere holds _)
        exact keeps ⟨store, source, #[]⟩ holds

end Store.Stable

/-! ## Declarations -/

/-- The store has the given declarations, each once, and only values of the declared
types. -/
structure Store.Declares (headings : List Heading) (store : Store) : Prop where
  headings : store.headings = headings
  distinct : store.Distinct
  conforming : store.Conforming

namespace Store.Declares

variable {headings : List Heading} {store : Store}

theorem resetWhere (declares : store.Declares headings) (condition : Variable → Bool) :
    (store.resetWhere condition).Declares headings where
  headings := (headings_resetWhere condition).trans declares.headings
  distinct := by
    unfold Distinct
    rw [identifiers_resetWhere]
    exact declares.distinct
  conforming := by
    intro v member
    obtain ⟨old, oldMember, rfl⟩ := List.mem_map.mp member
    by_cases wanted : condition old
    · rw [if_pos wanted]
      exact (declares.conforming old oldMember).reset
    · rw [if_neg wanted]
      exact declares.conforming old oldMember

/-- A value of the declared type may be put anywhere in a variable. -/
theorem put (declares : store.Declares headings) {kind : AssignmentKind}
    {identifier : String} {v : Variable} {coerced : Value}
    (found : store.get? identifier = some v) (fits : coerced.Conforms v.type) :
    (store.update identifier (kind.put coerced)).Declares headings where
  headings := (headings_update (heading_put kind coerced)).trans declares.headings
  distinct := by
    unfold Distinct
    rw [identifiers_update fun _ => AssignmentKind.identifier_put]
    exact declares.distinct
  conforming := by
    intro changed member
    rcases mem_update (fun _ => AssignmentKind.identifier_put) member with
      same | ⟨old, foundOld, rfl⟩
    · exact declares.conforming changed same
    · rw [found] at foundOld
      cases foundOld
      exact (declares.conforming v (mem_of_get? found)).put fits kind

theorem stable (headings : List Heading) : Store.Stable (Store.Declares headings) where
  put declares found fits := declares.put found fits
  resetWhere declares condition := declares.resetWhere condition

end Store.Declares

/-! ## Attempts -/

/-- The stores of attempts at a document.  Values come from outside, such as the
bindings of responses; and a processor may run any rules, in any environment, and may
fail half way. -/
inductive Document.Reaches (document : Document) : Store → Prop where
  | fresh : Reaches document document.newStore
  | stored {store after : Store} {identifier : String} {value : Value} :
      Reaches document store → store.setValue identifier value = .ok after →
      Reaches document after
  | processed {store : Store} (environment : Environment) (source : RandomSource)
      (resolved : Except RuleError (List Rule)) (processor : Processor) :
      Reaches document store →
      Reaches document (processor.run environment source resolved store).store

namespace Document.Reaches

variable {document : Document} {node : Json} {store after : Store}

/-- Bindings are stored one by one. -/
theorem bind {bindings : List (String × Value)} (reaches : document.Reaches store)
    (success : store.bind bindings = .ok after) : document.Reaches after := by
  induction bindings generalizing store with
  | nil =>
      cases success
      exact reaches
  | cons binding bindings induction =>
      obtain ⟨next, stored, rest⟩ := bind_eq_ok_iff.mp success
      exact induction (reaches.stored stored) rest

/-- What holds of the fresh store and is stable holds throughout. -/
theorem keeps {invariant : Store → Prop} (stable : Store.Stable invariant)
    (fresh : invariant document.newStore) (reaches : document.Reaches store) :
    invariant store := by
  induction reaches with
  | fresh => exact fresh
  | @stored store after identifier value _ success induction =>
      have assigned : store.assign .outcomeValue identifier value = .ok after := success
      exact stable.assign induction assigned
  | processed environment source resolved processor _ induction =>
      exact stable.run induction environment source resolved processor

theorem declares (accepted : ofJson node = .ok document)
    (reaches : document.Reaches store) : store.Declares document.newStore.headings :=
  reaches.keeps (Store.Declares.stable _)
    ⟨rfl, distinct_newStore document, conforming_newStore accepted⟩

/-- In every store of an attempt at an accepted document, each variable holds only NULL
or values of its declared type, and the declarations are those of the fresh store. -/
theorem conforming_and_headings (accepted : ofJson node = .ok document)
    (reaches : document.Reaches store) :
    store.Conforming ∧ store.headings = document.newStore.headings :=
  ⟨(declares accepted reaches).conforming, (declares accepted reaches).headings⟩

/-- An item that counts the identifiers of its response. -/
def countingItem : Json :=
  .object
    [("declarations", .array
        [.object
          [("baseType", .string "identifier"), ("cardinality", .string "multiple"),
            ("identifier", .string "RESPONSE"), ("role", .string "response")],
          .object
          [("baseType", .string "integer"), ("cardinality", .string "single"),
            ("identifier", .string "SCORE"), ("role", .string "outcome")]]),
      ("identifier", .string "counting")]

def answeredA : List (String × Value) :=
  [("RESPONSE", .multiple ⟨.identifier, [.identifier "A"]⟩)]

def countingRules : List Rule :=
  [.set .outcomeValue "SCORE" (.apply .containerSize [.valueOf "RESPONSE"])]

theorem conforming_and_headings_counted :
    ∃ document answered scored,
      ofJson countingItem = .ok document ∧
        document.newStore.bindingsOfJson (.object [("RESPONSE", .array [.string "A"])]) =
          .ok answeredA ∧
        document.newStore.bind answeredA = .ok answered ∧
        scored = ((Processor.ofKind .response).run ⟨.default, .standard⟩ (.ofSeed 0)
          (.ok countingRules) answered).store ∧
        scored.value? "SCORE" = some (.integer 1) ∧
        scored.Conforming ∧ scored.headings = document.newStore.headings := by
  have answers : ∀ {document : Document} {answered : Store},
      document.newStore.bind answeredA = .ok answered → document.Reaches answered :=
    fun stored => bind .fresh stored
  refine ⟨_, _, _, rfl, rfl, rfl, rfl, by decide +kernel, ?_⟩
  have accepted : ofJson countingItem = .ok _ := rfl
  exact conforming_and_headings accepted (.processed _ _ _ _ (answers rfl))

end Document.Reaches

end Assessment
