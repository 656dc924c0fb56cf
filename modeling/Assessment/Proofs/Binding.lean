import Assessment.Proofs.Conformance
import Assessment.Proofs.JsonKeys

/-!
# Binding responses

Values read from JSON for the variables of a store have the declared types, so storing
them succeeds and changes nothing about them.  Binding is therefore all or nothing:
either the JSON is refused as a whole, or every binding is stored, in whatever order.
No variable is bound twice, because objects that are read from a text have each key once
(`Json.keysDistinct_of_read?`).
-/

namespace Assessment

namespace Store

variable {store : Store}

/-! ## Writing without coercion -/

/-- The values of all bindings put into their variables as they are. -/
def writeAll (store : Store) (bindings : List (String × Value)) : Store :=
  bindings.foldl (fun store binding => store.update binding.1 (Variable.setValue binding.2))
    store

theorem get?_update_setValue (identifier : String) (value : Value) (wanted : String) :
    (store.update identifier (Variable.setValue value)).get? wanted =
      if wanted = identifier then (store.get? identifier).map (Variable.setValue value)
      else store.get? wanted := by
  have keeps : ∀ v, (Variable.setValue value v).identifier = v.identifier := fun _ => rfl
  exact get?_update keeps wanted

theorem identifiers_writeAll (bindings : List (String × Value)) :
    (store.writeAll bindings).identifiers = store.identifiers := by
  induction bindings generalizing store with
  | nil => rfl
  | cons binding bindings induction =>
      exact induction.trans (identifiers_update fun _ => rfl)

theorem get?_writeAll_of_not_mem {bindings : List (String × Value)} {identifier : String}
    (absent : identifier ∉ bindings.map (·.1)) :
    (store.writeAll bindings).get? identifier = store.get? identifier := by
  induction bindings generalizing store with
  | nil => rfl
  | cons binding bindings induction =>
      rw [List.map_cons, List.mem_cons, not_or] at absent
      obtain ⟨different, later⟩ := absent
      calc (store.writeAll (binding :: bindings)).get? identifier
          = (store.update binding.1 (Variable.setValue binding.2)).get? identifier :=
            induction later
        _ = store.get? identifier := by
            rw [get?_update_setValue, if_neg different]

theorem get?_writeAll_of_mem {bindings : List (String × Value)}
    (distinct : (bindings.map (·.1)).Nodup) {binding : String × Value}
    (member : binding ∈ bindings) :
    (store.writeAll bindings).get? binding.1 =
      (store.get? binding.1).map (Variable.setValue binding.2) := by
  induction bindings generalizing store with
  | nil => cases member
  | cons first bindings induction =>
      obtain ⟨once, others⟩ := List.nodup_cons.mp distinct
      rcases List.mem_cons.mp member with rfl | later
      · calc (store.writeAll (binding :: bindings)).get? binding.1
            = (store.update binding.1 (Variable.setValue binding.2)).get? binding.1 :=
              get?_writeAll_of_not_mem once
          _ = (store.get? binding.1).map (Variable.setValue binding.2) := by
              rw [get?_update_setValue, if_pos rfl]
      · have different : binding.1 ≠ first.1 := fun same =>
          once (List.mem_map.mpr ⟨binding, later, same⟩)
        calc (store.writeAll (first :: bindings)).get? binding.1
            = ((store.update first.1 (Variable.setValue first.2)).get? binding.1).map
                (Variable.setValue binding.2) := induction others later
          _ = (store.get? binding.1).map (Variable.setValue binding.2) := by
              rw [get?_update_setValue, if_neg different]

/-- Each variable is written at most once, so the order does not matter. -/
theorem writeAll_perm (declared : store.Distinct) {bindings order : List (String × Value)}
    (distinct : (bindings.map (·.1)).Nodup) (permuted : order.Perm bindings) :
    store.writeAll order = store.writeAll bindings := by
  have declaredAfter : (store.writeAll bindings).Distinct := by
    unfold Distinct
    rw [identifiers_writeAll]
    exact declared
  refine declaredAfter.eq_of_views ?_ fun identifier => ?_
  · rw [identifiers_writeAll, identifiers_writeAll]
  · have keys := permuted.map (·.1)
    by_cases named : identifier ∈ bindings.map (·.1)
    · obtain ⟨binding, member, rfl⟩ := List.mem_map.mp named
      rw [get?_writeAll_of_mem (keys.nodup_iff.mpr distinct) (permuted.mem_iff.mpr member),
        get?_writeAll_of_mem distinct member]
    · rw [get?_writeAll_of_not_mem (keys.mem_iff.not.mpr named),
        get?_writeAll_of_not_mem named]

/-! ## Binding values of the declared types -/

/-- The variable is declared, and the value has the type that it is declared with. -/
def Fits (store : Store) (binding : String × Value) : Prop :=
  ∃ v, store.get? binding.1 = some v ∧ binding.2.Conforms v.type

theorem setValue_of_fits {binding : String × Value} (fits : store.Fits binding) :
    store.setValue binding.1 binding.2 =
      .ok (store.update binding.1 (Variable.setValue binding.2)) := by
  obtain ⟨v, found, conforms⟩ := fits
  exact setValue_fits found (DeclaredType.coerce?_of_conforms conforms)

/-- Writing a value changes no type. -/
theorem Fits.update {binding written : String × Value} (fits : store.Fits binding) :
    (store.update written.1 (Variable.setValue written.2)).Fits binding := by
  obtain ⟨v, found, conforms⟩ := fits
  unfold Fits
  rw [get?_update_setValue]
  split
  next same =>
    rw [← same, found]
    exact ⟨_, rfl, conforms⟩
  next => exact ⟨v, found, conforms⟩

theorem bind_of_fits {bindings : List (String × Value)}
    (fits : ∀ binding ∈ bindings, store.Fits binding) :
    store.bind bindings = .ok (store.writeAll bindings) := by
  induction bindings generalizing store with
  | nil => rfl
  | cons binding bindings induction =>
      have first := setValue_of_fits (fits binding List.mem_cons_self)
      have fitsLater : ∀ later ∈ bindings,
          (store.update binding.1 (Variable.setValue binding.2)).Fits later := fun later member =>
        (fits later (List.mem_cons_of_mem _ member)).update
      rw [Store.bind, first]
      exact induction fitsLater

/-! ## Bindings read from JSON -/

/-- The binding is that of the field: its value is what reading the field as the
declared type gives. -/
def ReadAs (store : Store) (field : String × Json) (binding : String × Value) : Prop :=
  binding.1 = field.1 ∧
    ∃ v, store.get? field.1 = some v ∧
      Value.ofJsonAs v.type [.key field.1] field.2 = .ok binding.2

theorem ReadAs.fits {field : String × Json} {binding : String × Value}
    (read : store.ReadAs field binding) : store.Fits binding := by
  obtain ⟨same, v, found, success⟩ := read
  exact ⟨v, same ▸ found, Value.conforms_ofJsonAs success⟩

theorem readAs_of_bindingsOfFields {fields : List (String × Json)}
    {bindings : List (String × Value)} (success : store.bindingsOfFields fields = .ok bindings) :
    List.Forall₂ store.ReadAs fields bindings := by
  induction fields generalizing bindings with
  | nil =>
      cases success
      exact .nil
  | cons field fields induction =>
      obtain ⟨identifier, raw⟩ := field
      rw [bindingsOfFields] at success
      cases found : store.get? identifier with
      | none => simp [found, Reading.invalid] at success
      | some v =>
          simp only [found] at success
          obtain ⟨value, read, rest⟩ := bind_eq_ok_iff.mp success
          obtain ⟨others, othersRead, together⟩ := bind_eq_ok_iff.mp rest
          cases together
          exact .cons ⟨rfl, v, found, read⟩ (induction othersRead)

theorem keys_of_readAs {fields : List (String × Json)} {bindings : List (String × Value)}
    (reads : List.Forall₂ store.ReadAs fields bindings) :
    bindings.map (·.1) = fields.map (·.1) := by
  induction reads with
  | nil => rfl
  | cons read _ induction => simp only [List.map_cons, read.1, induction]

/-- Every field of a JSON object is stored as its variable's type reads it, and nothing
else has changed. -/
structure Bound (before : Store) (fields : List (String × Json)) (after : Store) : Prop where
  identifiers : after.identifiers = before.identifiers
  stored : ∀ field ∈ fields, ∃ v value, before.get? field.1 = some v ∧
    Value.ofJsonAs v.type [.key field.1] field.2 = .ok value ∧
    after.get? field.1 = some (v.setValue value)
  untouched : ∀ identifier, identifier ∉ fields.map (·.1) →
    after.get? identifier = before.get? identifier

theorem bound_writeAll {fields : List (String × Json)} {bindings : List (String × Value)}
    (reads : List.Forall₂ store.ReadAs fields bindings)
    (distinct : (fields.map (·.1)).Nodup) : store.Bound fields (store.writeAll bindings) where
  identifiers := identifiers_writeAll bindings
  stored := by
    intro field member
    obtain ⟨binding, bindingMember, same, v, found, read⟩ :=
      exists_of_mem_left reads member
    have written : (store.writeAll bindings).get? binding.1 =
        (store.get? binding.1).map (Variable.setValue binding.2) :=
      get?_writeAll_of_mem (keys_of_readAs reads ▸ distinct) bindingMember
    rw [same, found] at written
    exact ⟨v, binding.2, found, read, written⟩
  untouched := by
    intro identifier absent
    exact get?_writeAll_of_not_mem (keys_of_readAs reads ▸ absent)

end Store

namespace Document.Reaches

variable {node json : Json} {document : Document} {store : Store}

/-- Bindings are refused as a whole when they are read, or they are all stored, in any
order and with the same result. -/
theorem bindings_refused_or_stored (accepted : ofJson node = .ok document)
    (reaches : document.Reaches store) (distinct : json.KeysDistinct) :
    (∃ error, store.bindingsOfJson json = .error error) ∨
      ∃ fields bindings after, json = .object fields ∧
        store.bindingsOfJson json = .ok bindings ∧
        (∀ order : List (String × Value), order.Perm bindings → store.bind order = .ok after) ∧
        store.Bound fields after := by
  cases read : store.bindingsOfJson json with
  | error error => exact .inl ⟨error, rfl⟩
  | ok bindings =>
      right
      cases json with
      | object fields =>
          have reads := Store.readAs_of_bindingsOfFields read
          refine ⟨fields, bindings, store.writeAll bindings, rfl, rfl, ?_,
            Store.bound_writeAll reads distinct⟩
          intro order permuted
          have fits : ∀ binding ∈ order, store.Fits binding := by
            intro binding member
            obtain ⟨field, _, readAs⟩ :=
              exists_of_mem_right reads (permuted.mem_iff.mp member)
            exact readAs.fits
          rw [Store.bind_of_fits fits]
          exact congrArg Except.ok (Store.writeAll_perm (declares accepted reaches).distinct
            (Store.keys_of_readAs reads ▸ distinct) permuted)
      | null => cases read
      | bool value => cases read
      | integer value => cases read
      | float value => cases read
      | string value => cases read
      | array items => cases read

/-- Answers for both variables of the item that counts. -/
def twoAnswers : List (String × Json) :=
  [("RESPONSE", .array [.string "B", .string "A"]), ("SCORE", .integer 3)]

theorem bindings_refused_or_stored_two :
    ∃ document bindings after,
      ofJson countingItem = .ok document ∧ document.Reaches document.newStore ∧
        (Json.object twoAnswers).KeysDistinct ∧
        document.newStore.bindingsOfJson (.object twoAnswers) = .ok bindings ∧
        document.newStore.bind bindings.reverse = .ok after ∧
        document.newStore.Bound twoAnswers after ∧
        after.value? "SCORE" = some (.integer 3) := by
  have accepted : ofJson countingItem = .ok _ := rfl
  have distinct : (Json.object twoAnswers).KeysDistinct := by
    show (twoAnswers.map (·.1)).Nodup
    decide
  rcases bindings_refused_or_stored accepted .fresh distinct with
    ⟨error, refused⟩ | ⟨fields, bindings, after, object, read, stored, bound⟩
  · cases refused
  · cases object
    cases read
    have reversed := stored _ (List.reverse_perm _)
    refine ⟨_, _, after, rfl, .fresh, distinct, rfl, reversed, bound, ?_⟩
    cases reversed
    rfl

end Document.Reaches

end Assessment
