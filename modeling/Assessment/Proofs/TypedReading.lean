import Assessment.Document
import Assessment.Proofs.Coercion

/-!
# Documents declare conforming variables

Reading a scalar gives one of the base type that was asked for, reading a value gives
one of the declared type, and so the variables of a document conform to their
declarations before anything is done with them.
-/

namespace Assessment

namespace Scalar

variable {baseType : BaseType} {scalar : Scalar}

theorem baseType_of_map {α : Type} {make : α → Scalar} {found : Option α}
    (typed : ∀ value, (make value).baseType = baseType)
    (converted : found.map make = some scalar) : scalar.baseType = baseType := by
  obtain ⟨value, _, rfl⟩ := Option.map_eq_some_iff.mp converted
  exact typed value

theorem baseType_read {text : String} (success : read baseType text = .ok scalar) :
    scalar.baseType = baseType := by
  cases baseType with
  | boolean | integer | float | identifier | intOrIdentifier | point | pair
  | directedPair =>
      simp only [read] at success
      split at success
      next converted =>
        cases success
        exact baseType_of_map (fun _ => rfl) converted
      next => cases success
  | duration =>
      simp only [read] at success
      split at success
      next => cases success; rfl
      next => cases success
  | string | uri | file => cases success; rfl

theorem baseType_ofModel_read {path : Path} {text : String}
    (success : Reading.ofModel path (read baseType text) = .ok scalar) :
    scalar.baseType = baseType := by
  cases found : read baseType text with
  | error error => simp [found, Reading.ofModel] at success
  | ok value =>
      simp only [found, Reading.ofModel, Except.ok.injEq] at success
      exact success ▸ baseType_read found

theorem baseType_ofJson {path : Path} {json : Json}
    (success : ofJson baseType path json = .ok scalar) : scalar.baseType = baseType := by
  cases json with
  | string text => exact baseType_ofModel_read success
  | bool value =>
      simp only [ofJson] at success
      split at success
      next boolean => cases success; exact boolean.symm
      next => cases success
  | integer value =>
      cases baseType <;> simp only [ofJson] at success <;>
        first
        | exact baseType_ofModel_read success
        | (split at success <;> cases success; rfl)
  | float value =>
      cases baseType <;> simp only [ofJson] at success <;>
        first
        | exact baseType_ofModel_read success
        | (split at success <;> cases success; rfl)
  | null => cases success
  | array items => cases success
  | object fields => cases success

end Scalar

theorem Json.exists_of_mem_readItems {α : Type} {read : Path → Json → Reading α}
    {path : Path} {position : Nat} {items : List Json} {results : List α} {result : α}
    (success : readItems read path position items = .ok results)
    (member : result ∈ results) : ∃ inner item, read inner item = .ok result := by
  induction items generalizing position results with
  | nil =>
      cases success
      cases member
  | cons item items induction =>
      obtain ⟨first, firstRead, rest⟩ := bind_eq_ok_iff.mp success
      obtain ⟨others, othersRead, together⟩ := bind_eq_ok_iff.mp rest
      cases together
      rcases List.mem_cons.mp member with rfl | later
      · exact ⟨_, item, firstRead⟩
      · exact induction othersRead later

namespace Value

theorem homogeneous_scalarsOfJson {baseType : BaseType} {path : Path} {json : Json}
    {scalars : List Scalar} (success : scalarsOfJson baseType path json = .ok scalars) :
    Container.Homogeneous ⟨baseType, scalars⟩ := by
  intro scalar member
  unfold scalarsOfJson at success
  split at success
  next items =>
    obtain ⟨inner, item, read⟩ := Json.exists_of_mem_readItems success member
    exact Scalar.baseType_ofJson read
  next =>
    obtain ⟨alone, read, rfl⟩ := map_eq_ok_iff.mp success
    rw [List.mem_singleton.mp member]
    exact Scalar.baseType_ofJson read

theorem conforms_ofJsonAs {type : DeclaredType} {path : Path} {json : Json} {value : Value}
    (success : ofJsonAs type path json = .ok value) : value.Conforms type := by
  unfold ofJsonAs ofJson at success
  split at success
  next => cases success; trivial
  next =>
    cases type with
    | single baseType =>
        obtain ⟨scalar, read, rfl⟩ := map_eq_ok_iff.mp success
        rw [Conforms, Scalar.baseType_ofJson read]
    | multiple baseType =>
        obtain ⟨scalars, read, rfl⟩ := map_eq_ok_iff.mp success
        exact ⟨rfl, homogeneous_scalarsOfJson read⟩
    | ordered baseType =>
        obtain ⟨scalars, read, rfl⟩ := map_eq_ok_iff.mp success
        exact ⟨rfl, homogeneous_scalarsOfJson read⟩
    | record =>
        obtain ⟨fields, read, rfl⟩ := map_eq_ok_iff.mp success
        rfl

end Value

/-! ## Declarations -/

namespace Role

theorem correct_of_parts {correct : Reading Value} {mapping : Reading (Option Mapping)}
    {areaMapping : Reading (Option AreaMapping)} {info : ResponseInfo}
    (success : (do
      let correct ← correct
      let mapping ← mapping
      let areaMapping ← areaMapping
      return (⟨correct, mapping, areaMapping⟩ : ResponseInfo)) = Except.ok info) :
    correct = .ok info.correct := by
  obtain ⟨value, read, rest⟩ := bind_eq_ok_iff.mp success
  obtain ⟨_, _, rest⟩ := bind_eq_ok_iff.mp rest
  obtain ⟨_, _, together⟩ := bind_eq_ok_iff.mp rest
  cases together
  exact read

/-- An absent correct response is NULL; one that is there has the declared type. -/
theorem conforms_correct_of_responseOfJson {type : DeclaredType} {path : Path} {node : Json}
    {info : ResponseInfo} (success : responseOfJson type path node = .ok info) :
    info.correct.Conforms type := by
  unfold responseOfJson at success
  cases areaField : node.field? "areaMapping" <;> simp only [areaField] at success <;>
    cases correctField : node.field? "correctResponse" <;>
    simp only [correctField] at success
  case none.none =>
    rw [← Except.ok.inj (correct_of_parts success)]
    trivial
  case some.none =>
    rw [← Except.ok.inj (correct_of_parts success)]
    trivial
  case none.some => exact Value.conforms_ofJsonAs (correct_of_parts success)
  case some.some => exact Value.conforms_ofJsonAs (correct_of_parts success)

theorem conforms_correct_of_ofJson {kind : RoleKind} {type : DeclaredType} {path : Path}
    {node : Json} {info : ResponseInfo}
    (success : ofJson kind type path node = .ok (.response info)) :
    info.correct.Conforms type := by
  cases kind with
  | response =>
      obtain ⟨read, responseRead, same⟩ := map_eq_ok_iff.mp success
      cases same
      exact conforms_correct_of_responseOfJson responseRead
  | outcome =>
      obtain ⟨_, _, same⟩ := map_eq_ok_iff.mp success
      cases same
  | template =>
      obtain ⟨_, _, same⟩ := map_eq_ok_iff.mp success
      cases same

end Role

/-- A variable without a value conforms if its default does and its role was read for
its type. -/
theorem Variable.conforming_of_parts {identifier : String} {kind : RoleKind}
    {type : DeclaredType} {role : Role} {defaultValue : Value} {path : Path} {node : Json}
    (defaultFits : defaultValue.Conforms type)
    (roleRead : Role.ofJson kind type path node = .ok role) :
    Variable.Conforming ⟨identifier, type, role, .null, defaultValue⟩ := by
  refine ⟨trivial, defaultFits, ?_⟩
  intro correct found
  cases role with
  | response info =>
      cases found
      exact Role.conforms_correct_of_ofJson roleRead
  | outcome info => cases found
  | template info => cases found

theorem Variable.conforming_ofJson {path : Path} {node : Json} {v : Variable}
    (success : ofJson path node = .ok v) : v.Conforming := by
  obtain ⟨identifier, _, rest⟩ := bind_eq_ok_iff.mp success
  obtain ⟨kind, _, rest⟩ := bind_eq_ok_iff.mp rest
  obtain ⟨type, _, rest⟩ := bind_eq_ok_iff.mp rest
  cases defaultField : node.field? "defaultValue" with
  | none =>
      simp only [defaultField] at rest
      obtain ⟨defaultValue, defaultRead, rest⟩ := bind_eq_ok_iff.mp rest
      obtain ⟨role, roleRead, together⟩ := bind_eq_ok_iff.mp rest
      cases together
      cases defaultRead
      exact conforming_of_parts trivial roleRead
  | some raw =>
      simp only [defaultField] at rest
      obtain ⟨defaultValue, defaultRead, rest⟩ := bind_eq_ok_iff.mp rest
      obtain ⟨role, roleRead, together⟩ := bind_eq_ok_iff.mp rest
      cases together
      exact conforming_of_parts (Value.conforms_ofJsonAs defaultRead) roleRead

namespace Document

variable {node : Json} {document : Document}

/-- The declarations of a document are all read from it. -/
theorem exists_read_of_mem (accepted : ofJson node = .ok document) {v : Variable}
    (member : v ∈ document.declarations) : ∃ path item, Variable.ofJson path item = .ok v := by
  obtain ⟨identifier, _, rest⟩ := bind_eq_ok_iff.mp accepted
  obtain ⟨declarations, declarationsRead, rest⟩ := bind_eq_ok_iff.mp rest
  obtain ⟨templateProcessing, _, rest⟩ := bind_eq_ok_iff.mp rest
  obtain ⟨responseProcessing, _, rest⟩ := bind_eq_ok_iff.mp rest
  obtain ⟨outcomeProcessing, _, together⟩ := bind_eq_ok_iff.mp rest
  cases together
  unfold declarationsOfJson at declarationsRead
  split at declarationsRead
  next =>
    cases declarationsRead
    cases member
  next raw =>
    obtain ⟨items, _, itemsRead⟩ := bind_eq_ok_iff.mp declarationsRead
    exact Json.exists_of_mem_readItems itemsRead member

theorem conforming_declarations (accepted : ofJson node = .ok document) :
    ∀ v ∈ document.declarations, v.Conforming := by
  intro v member
  obtain ⟨path, item, read⟩ := exists_read_of_mem accepted member
  exact Variable.conforming_ofJson read

/-- A fresh store has no identifier twice. -/
theorem distinct_newStore (document : Document) : document.newStore.Distinct := by
  unfold newStore Store.resetAll Store.Distinct
  rw [Store.identifiers_resetWhere]
  exact Store.distinct_ofList document.declarations

theorem conforming_newStore (accepted : ofJson node = .ok document) :
    document.newStore.Conforming := by
  intro v member
  obtain ⟨declared, declaredMember, rfl⟩ := List.mem_map.mp member
  have conforming := conforming_declarations accepted declared
    (Store.mem_ofList declaredMember)
  exact conforming.reset

end Document

end Assessment
