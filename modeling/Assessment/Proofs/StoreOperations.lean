import Assessment.Document
import Assessment.Proofs.Write
import Mathlib.Data.List.Induction

/-!
# Sequences of operations on a store

Whatever is declared, declared again, assigned and reset, the list of variables and the
index stay in step: a variable stands where its identifier was declared first, it is the
one declared last, and every way to it leads to the same place.
-/

namespace Assessment

namespace Store

/-- What is done to a store from outside of rules.  Resets of outcomes, of template
variables and of all variables differ in their conditions only. -/
inductive Operation where
  | declare (v : Variable)
  | setValue (identifier : String) (value : Value)
  | reset (condition : Variable → Bool)

def Operation.declaration? : Operation → Option Variable
  | .declare v => some v
  | .setValue .. => none
  | .reset _ => none

/-- The identifiers of the declarations in their order, each as often as it is
declared. -/
def declaredNames (operations : List Operation) : List String :=
  (operations.filterMap Operation.declaration?).map (·.identifier)

/-- The store after an operation.  An assignment that is refused changes nothing. -/
def perform (store : Store) : Operation → Store
  | .declare v => store.declare v
  | .setValue identifier value =>
      match store.setValue identifier value with
      | .ok after => after
      | .error _ => store
  | .reset condition => store.resetWhere condition

def performAll (store : Store) (operations : List Operation) : Store :=
  operations.foldl perform store

end Store

/-- What an operation that declares nothing does to a single variable. -/
def Variable.undergo (v : Variable) : Store.Operation → Variable
  | .declare _ => v
  | .setValue identifier value =>
      if identifier = v.identifier then
        match v.type.coerce? value with
        | some coerced => v.setValue coerced
        | none => v
      else v
  | .reset condition => if condition v then v.reset else v

theorem Variable.undergo_of_declares {operation : Store.Operation} {declaration : Variable}
    (declares : operation.declaration? = some declaration) (v : Variable) :
    v.undergo operation = v := by
  cases operation with
  | declare _ => rfl
  | setValue _ _ => cases declares
  | reset _ => cases declares

/-- Only the value of the variable changes. -/
theorem Variable.undergo_eq (v : Variable) (operation : Store.Operation) :
    v.undergo operation = v.setValue (v.undergo operation).value := by
  cases operation with
  | declare _ => rfl
  | setValue identifier value =>
      rw [undergo]
      split
      next => cases v.type.coerce? value <;> rfl
      next => rfl
  | reset condition =>
      rw [undergo]
      split <;> rfl

theorem Variable.foldl_undergo_eq (v : Variable) (operations : List Store.Operation) :
    operations.foldl undergo v = v.setValue (operations.foldl undergo v).value := by
  induction operations generalizing v with
  | nil => rfl
  | cons operation operations induction =>
      rw [List.foldl_cons, induction, undergo_eq]
      rfl

namespace Store

variable {store : Store} {identifier : String} {operation : Operation}
  {operations : List Operation}

/-! ## One operation -/

theorem perform_refused {value : Value} {error : StoreError}
    (refused : store.setValue identifier value = .error error) :
    store.perform (.setValue identifier value) = store := by
  rw [perform, refused]

/-- An assignment changes nothing, or it changes one variable to which the value fits. -/
theorem perform_setValue_cases (store : Store) (identifier : String) (value : Value) :
    (store.perform (.setValue identifier value) = store ∧
      ∀ v, store.get? identifier = some v → v.type.coerce? value = none) ∨
    (∃ v coerced, store.get? identifier = some v ∧ v.type.coerce? value = some coerced ∧
      store.perform (.setValue identifier value) =
        store.update identifier (Variable.setValue coerced)) := by
  cases found : store.get? identifier with
  | none =>
      refine .inl ⟨perform_refused (setValue_unknown found value), ?_⟩
      rintro _ ⟨⟩
  | some v =>
      cases fits : v.type.coerce? value with
      | none =>
          refine .inl ⟨perform_refused (setValue_incompatible found fits), ?_⟩
          rintro _ ⟨⟩
          exact fits
      | some coerced =>
          have written := setValue_fits found fits
          refine .inr ⟨v, coerced, rfl, fits, ?_⟩
          rw [perform, written]

theorem undergo_setValue_of_ne {v : Variable} {target : String} {value : Value}
    (other : v.identifier ≠ target) : v.undergo (.setValue target value) = v :=
  if_neg (Ne.symm other)

theorem get?_perform_setValue (store : Store) (target : String) (value : Value)
    (identifier : String) :
    (store.perform (.setValue target value)).get? identifier =
      (store.get? identifier).map (·.undergo (.setValue target value)) := by
  have keeps (coerced : Value) (v : Variable) :
      (v.setValue coerced).identifier = v.identifier := rfl
  rcases store.perform_setValue_cases target value with
    ⟨same, misfit⟩ | ⟨changed, coerced, found, fits, written⟩
  · rw [same]
    cases found : store.get? identifier with
    | none => rfl
    | some v =>
        have name := identifier_of_get? found
        by_cases here : identifier = target
        · simp [Variable.undergo, name, here, misfit v (here ▸ found)]
        · simp [undergo_setValue_of_ne (name.symm ▸ here)]
  · rw [written, get?_update (keeps coerced)]
    by_cases here : identifier = target
    · have name := identifier_of_get? found
      simp [here, found, Variable.undergo, name, fits]
    · rw [if_neg here]
      cases elsewhere : store.get? identifier with
      | none => rfl
      | some v =>
          have name := identifier_of_get? elsewhere
          simp [undergo_setValue_of_ne (name.symm ▸ here)]

/-- A new identifier goes to the end, and nothing else changes the identifiers. -/
theorem identifiers_perform (store : Store) (operation : Operation) :
    (store.perform operation).identifiers =
      match operation.declaration? with
      | some v =>
          if v.identifier ∈ store.identifiers then store.identifiers
          else store.identifiers ++ [v.identifier]
      | none => store.identifiers := by
  cases operation with
  | declare v => exact identifiers_declare store v
  | setValue target value =>
      rcases store.perform_setValue_cases target value with ⟨same, _⟩ | ⟨_, _, _, _, written⟩
      · exact congrArg identifiers same
      · exact (congrArg identifiers written).trans (identifiers_update fun _ => rfl)
  | reset condition => exact identifiers_resetWhere condition

/-- A declaration puts its variable under its identifier.  Everything else happens to
each variable by itself. -/
theorem get?_perform (store : Store) (operation : Operation) (identifier : String) :
    (store.perform operation).get? identifier =
      match operation.declaration? with
      | some v => if identifier = v.identifier then some v else store.get? identifier
      | none => (store.get? identifier).map (·.undergo operation) := by
  cases operation with
  | declare v => exact get?_declare store v identifier
  | setValue target value => exact get?_perform_setValue store target value identifier
  | reset condition => exact get?_resetWhere condition identifier

/-! ## All operations -/

theorem performAll_append (store : Store) (operations others : List Operation) :
    store.performAll (operations ++ others) = (store.performAll operations).performAll others :=
  List.foldl_append

theorem declaredNames_append (operations others : List Operation) :
    declaredNames (operations ++ others) = declaredNames operations ++ declaredNames others := by
  simp [declaredNames]

theorem identifiers_performAll_empty (operations : List Operation) :
    (empty.performAll operations).identifiers = (declaredNames operations).eraseDups := by
  -- From the end, since what the last operation adds depends on all names before it.
  induction operations using List.reverseRecOn with
  | nil => rfl
  | append_singleton operations operation induction =>
      rw [performAll_append, declaredNames_append, List.eraseDups_append, ← induction]
      change (perform _ operation).identifiers = _
      rw [identifiers_perform]
      cases declared : operation.declaration? with
      | none => simp [declaredNames, declared]
      | some v =>
          have same : v.identifier ∈ (empty.performAll operations).identifiers ↔
              v.identifier ∈ declaredNames operations := by
            rw [induction, List.mem_eraseDups]
          have new : declaredNames [operation] = [v.identifier] := by
            simp [declaredNames, declared]
          by_cases old : v.identifier ∈ declaredNames operations
          · simp [new, same, old, List.removeAll]
          · simp [new, same, old, List.removeAll, List.eraseDups_cons]

theorem distinct_perform (distinct : store.Distinct) (operation : Operation) :
    (store.perform operation).Distinct := by
  cases operation with
  | declare v => exact distinct_declare distinct v
  | setValue target value =>
      unfold Distinct
      rwa [identifiers_perform]
  | reset condition =>
      unfold Distinct
      rwa [identifiers_perform]

theorem distinct_performAll (distinct : store.Distinct) (operations : List Operation) :
    (store.performAll operations).Distinct := by
  induction operations generalizing store with
  | nil => exact distinct
  | cons operation operations induction => exact induction (distinct_perform distinct operation)

/-- What happens to a variable after its last declaration happens to it alone. -/
theorem get?_performAll (others : identifier ∉ declaredNames operations) :
    (store.performAll operations).get? identifier =
      (store.get? identifier).map (operations.foldl Variable.undergo) := by
  induction operations generalizing store with
  | nil => simp [performAll]
  | cons operation operations induction =>
      have append := declaredNames_append [operation] operations
      rw [List.singleton_append] at append
      rw [append, List.mem_append, not_or] at others
      obtain ⟨here, later⟩ := others
      calc (store.performAll (operation :: operations)).get? identifier
          = ((store.perform operation).get? identifier).map
              (operations.foldl Variable.undergo) := induction later
        _ = (store.get? identifier).map
              ((operation :: operations).foldl Variable.undergo) := by
            rw [get?_perform]
            cases declared : operation.declaration? with
            | none => simp [Function.comp_def]
            | some v =>
                have other : identifier ≠ v.identifier := by
                  simpa [declaredNames, declared] using here
                simp [other, Variable.undergo_of_declares declared]

/-! ## Consistency -/

/-- The store is what the operations make of the empty one: its variables, its index and
what is found in it agree with each other and with the declarations. -/
structure Consistent (operations : List Operation) (store : Store) : Prop where
  distinct : store.identifiers.Nodup
  /-- Each identifier stands where it was declared first. -/
  order : store.identifiers = (declaredNames operations).eraseDups
  /-- The index leads from each identifier to its own position and from nothing else. -/
  index : ∀ identifier position, store.index.positions.get? identifier = some position ↔
    store.identifiers[position]? = some identifier
  found : ∀ identifier v, store.get? identifier = some v ↔
    v ∈ store.declared ∧ v.identifier = identifier
  missing : ∀ identifier, store.get? identifier = none ↔
    identifier ∉ declaredNames operations
  /-- The last declaration is in force, and only the value has changed since. -/
  inForce : ∀ before v since, operations = before ++ .declare v :: since →
    v.identifier ∉ declaredNames since →
    store.get? v.identifier = some (v.setValue (since.foldl Variable.undergo v).value)
  unknown : ∀ identifier value, identifier ∉ declaredNames operations →
    store.setValue identifier value = .error (.unknownVariable identifier) ∧
      store.perform (.setValue identifier value) = store
  incompatible : ∀ identifier value v, store.get? identifier = some v →
    v.type.coerce? value = none →
    store.setValue identifier value =
        .error (.incompatible identifier v.type.text value.typeName) ∧
      store.perform (.setValue identifier value) = store

/-- Every sequence of operations leaves the list of variables and the index in step. -/
theorem consistent_performAll (operations : List Operation) :
    Consistent operations (empty.performAll operations) := by
  have start : empty.Distinct := List.nodup_nil
  have distinct := distinct_performAll start operations
  have missing (identifier : String) : (empty.performAll operations).get? identifier = none ↔
      identifier ∉ declaredNames operations := by
    rw [get?_eq_none_iff, identifiers_performAll_empty, List.mem_eraseDups]
  constructor
  case distinct => exact distinct
  case order => exact identifiers_performAll_empty operations
  case index => exact fun _ _ => distinct.position?_eq_some_iff
  case found => exact fun _ _ => distinct.get?_eq_some_iff
  case missing => exact missing
  case inForce =>
    rintro before v since rfl last
    rw [performAll_append]
    change ((perform _ (.declare v)).performAll since).get? _ = _
    rw [get?_performAll last, get?_perform]
    simp [Operation.declaration?, ← Variable.foldl_undergo_eq]
  case unknown =>
    intro identifier value absent
    have refused := setValue_unknown ((missing identifier).mpr absent) value
    exact ⟨refused, perform_refused refused⟩
  case incompatible =>
    intro identifier value v found misfit
    have refused := setValue_incompatible found misfit
    exact ⟨refused, perform_refused refused⟩

/-- A variable that is declared again keeps its place, and the assignment between the two
declarations is gone. -/
example :
    let a (value : Value) : Variable :=
      ⟨"A", .single .integer, .template ⟨false, false⟩, value, .null⟩
    let b : Variable := ⟨"B", .single .float, .template ⟨false, false⟩, .null, .null⟩
    let store := empty.performAll
      [.declare (a .null), .declare b, .setValue "A" (.integer 1), .declare (a (.integer 5)),
        .setValue "B" (.boolean true), .setValue "C" .null]
    store.declared = [a (.integer 5), b] ∧ store.position? "B" = some 1 := by
  decide

end Store

/-- A new attempt begins with all declarations and the defaults. -/
theorem Document.newStore_eq (document : Document) :
    document.newStore = Store.empty.performAll
      (document.declarations.map .declare ++ [.reset fun _ => true]) := by
  rw [Store.performAll_append]
  unfold Store.performAll
  rw [List.foldl_map]
  rfl

end Assessment
