import Assessment.Store.Index
import Assessment.Variable

/-!
# The store of an attempt

The store holds the variables of an attempt in the order of their declarations, and an
index of their identifiers by which they are found.  Everything that changes the list
keeps the index in step with it.  Writing never creates a variable: an identifier that
was not declared is an error.
-/

namespace Assessment

/-- Variables in the order of their first declaration, with the index of their
identifiers. -/
structure Store where
  declared : List Variable
  [index : Index (declared.map (·.identifier))]

namespace Store

/-- The variables determine the index. -/
theorem eq_of_declared {left right : Store} (same : left.declared = right.declared) :
    left = right := by
  cases left
  cases right
  cases same
  congr 1
  exact Index.eq _ _

instance : DecidableEq Store := fun left right =>
  decidable_of_iff (left.declared = right.declared) ⟨eq_of_declared, congrArg declared⟩

def empty : Store := ⟨[]⟩

instance : Inhabited Store :=
  ⟨empty⟩

def identifiers (store : Store) : List String :=
  store.declared.map (·.identifier)

/-- The position of the variable of an identifier. -/
def position? (store : Store) (identifier : String) : Option Nat :=
  store.index.positions.get? identifier

/-- The variable at the position that the index has for an identifier. -/
def get? (store : Store) (identifier : String) : Option Variable :=
  (store.position? identifier).bind fun position => store.declared[position]?

def contains (store : Store) (identifier : String) : Bool :=
  (store.position? identifier).isSome

/-- The current value of a variable, `none` if it is not declared. -/
def value? (store : Store) (identifier : String) : Option Value :=
  (store.get? identifier).map (·.value)

def size (store : Store) : Nat :=
  store.declared.length

/-- The variable of an identifier, or the error that there is none. -/
def get (store : Store) (identifier : String) : Except StoreError Variable :=
  match store.get? identifier with
  | some v => .ok v
  | none => .error (.unknownVariable identifier)

/-- The variable with other contents under its old identifier. -/
def alter (change : Variable → Variable) (v : Variable) : Variable :=
  { change v with identifier := v.identifier }

theorem identifier_alter (change : Variable → Variable) (v : Variable) :
    (alter change v).identifier = v.identifier :=
  rfl

theorem map_modify {α : Type} {view : Variable → α} {change : Variable → Variable}
    (unseen : ∀ v, view (change v) = view v) (declared : List Variable) (position : Nat) :
    (declared.modify position change).map view = declared.map view := by
  refine List.ext_getElem? fun other => ?_
  rw [List.getElem?_map, List.getElem?_map, List.getElem?_modify]
  cases declared[other]? with
  | none => rfl
  | some v => by_cases here : position = other <;> simp [here, unseen]

/-- Changes the variable of an identifier and leaves the others alone. -/
def update (store : Store) (identifier : String) (change : Variable → Variable) : Store :=
  match store.position? identifier with
  | some position =>
      { declared := store.declared.modify position (alter change)
        index := store.index.keep
          (map_modify (identifier_alter change) store.declared position) }
  | none => store

theorem identifiers_set {store : Store} {v : Variable} {position : Nat}
    (found : store.position? v.identifier = some position) :
    (store.declared.set position v).map (·.identifier) =
      store.declared.map (·.identifier) := by
  have name : (store.declared.map (·.identifier)).idxOf? v.identifier = some position :=
    (store.index.leads v.identifier).symm.trans found
  obtain ⟨inside, same, _⟩ := List.idxOf?_eq_some_iff.mp name
  rw [List.map_set, ← same]
  exact List.set_getElem_self inside

/-- Adds a variable at the end, or puts it in the place of the variable that has its
identifier. -/
def declare (store : Store) (v : Variable) : Store :=
  match found : store.position? v.identifier with
  | some position =>
      { declared := store.declared.set position v
        index := store.index.keep (identifiers_set found) }
  | none =>
      { declared := store.declared ++ [v]
        index := (store.index.append found).keep List.map_append }

def ofList (declarations : List Variable) : Store :=
  declarations.foldl declare empty

/-- Assigns a value after coercing it to the declared type. -/
def setValue (store : Store) (identifier : String) (value : Value) :
    Except StoreError Store := do
  let v ← store.get identifier
  let coerced ← v.coerce value
  return store.update identifier (Variable.setValue coerced)

/-- Assigns a default value after coercing it to the declared type. -/
def setDefault (store : Store) (identifier : String) (value : Value) :
    Except StoreError Store := do
  let v ← store.get identifier
  let coerced ← v.coerce value
  return store.update identifier (Variable.setDefault coerced)

/-- Assigns a correct response after coercing it to the declared type. -/
def setCorrect (store : Store) (identifier : String) (value : Value) :
    Except StoreError Store := do
  let v ← store.get identifier
  let coerced ← v.coerce value
  return store.update identifier (Variable.setCorrect coerced)

theorem identifiers_map_reset (condition : Variable → Bool) (store : Store) :
    (store.declared.map fun v => if condition v then v.reset else v).map (·.identifier) =
      store.declared.map (·.identifier) := by
  rw [List.map_map]
  refine List.map_congr_left fun v _ => ?_
  by_cases wanted : condition v <;> simp [wanted, Variable.reset]

/-- Resets the variables that satisfy a condition. -/
def resetWhere (condition : Variable → Bool) (store : Store) : Store where
  declared := store.declared.map fun v => if condition v then v.reset else v
  index := store.index.keep (store.identifiers_map_reset condition)

def resetOutcomes (store : Store) : Store :=
  store.resetWhere fun v => v.role.kind == .outcome

def resetTemplates (store : Store) : Store :=
  store.resetWhere fun v => v.role.kind == .template

def resetAll (store : Store) : Store :=
  store.resetWhere fun _ => true

/-- No two variables share an identifier. -/
def Distinct (store : Store) : Prop :=
  store.identifiers.Nodup

/-- Every variable holds only values of its declared type. -/
def Conforming (store : Store) : Prop :=
  ∀ v ∈ store.declared, v.Conforming

end Store

end Assessment
