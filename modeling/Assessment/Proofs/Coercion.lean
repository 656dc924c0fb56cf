import Assessment.Proofs.Success
import Assessment.Proofs.Write

/-!
# Values of the declared type

Coercion gives values that conform to the declared type, whatever it is given, and leaves
those alone that conform: it is a projection onto the values of the type.  A reset takes a
value that conforms from the declaration.  So every way to write a variable leaves it
conforming.
-/

namespace Assessment

namespace Scalar

theorem baseType_coerce? {scalar coerced : Scalar} {target : BaseType}
    (success : scalar.coerce? target = some coerced) : coerced.baseType = target := by
  unfold coerce? at success
  split at success
  next same =>
    cases success
    exact same
  next =>
    split at success
    next => cases success; rfl
    next =>
      obtain ⟨parts, _, rfl⟩ := Option.map_eq_some_iff.mp success
      rfl
    next => cases success; rfl
    next =>
      split at success
      next => cases success; rfl
      next => cases success
    next => cases success; rfl
    next => cases success; rfl
    next => cases success

theorem coerce?_baseType {scalar : Scalar} {target : BaseType}
    (same : scalar.baseType = target) : scalar.coerce? target = some scalar := by
  unfold coerce?
  exact if_pos same

end Scalar

namespace DeclaredType

/-- The scalars of a container are converted one by one. -/
theorem forall₂_of_coerceAll? {target : BaseType} {scalars : List Scalar}
    {container : Container} (success : coerceAll? target scalars = some container) :
    container.baseType = target ∧
      List.Forall₂ (fun original scalar : Scalar => original.coerce? target = some scalar)
        scalars container.values := by
  obtain ⟨converted, all, rfl⟩ := Option.map_eq_some_iff.mp success
  exact ⟨rfl, mapM_eq_some_iff.mp all⟩

theorem conforms_of_coerceAll? {target : BaseType} {scalars : List Scalar}
    {container : Container} (success : coerceAll? target scalars = some container) :
    (Value.multiple container).Conforms (.multiple target) ∧
      (Value.ordered container).Conforms (.ordered target) := by
  obtain ⟨rfl, converted⟩ := forall₂_of_coerceAll? success
  have homogeneous : container.Homogeneous := by
    intro scalar member
    obtain ⟨original, _, coerced⟩ := exists_of_mem_right converted member
    exact Scalar.baseType_coerce? coerced
  exact ⟨⟨rfl, homogeneous⟩, ⟨rfl, homogeneous⟩⟩

theorem conforms_coerce? {type : DeclaredType} {value coerced : Value}
    (success : type.coerce? value = some coerced) : coerced.Conforms type := by
  unfold coerce? at success
  split at success
  next => cases success; trivial
  next => cases success; rfl
  next target scalar =>
    obtain ⟨converted, one, rfl⟩ := Option.map_eq_some_iff.mp success
    rw [Value.Conforms, Scalar.baseType_coerce? one]
  next =>
    obtain ⟨container, all, rfl⟩ := Option.map_eq_some_iff.mp success
    exact (conforms_of_coerceAll? all).1
  next =>
    obtain ⟨container, all, rfl⟩ := Option.map_eq_some_iff.mp success
    exact (conforms_of_coerceAll? all).1
  next =>
    obtain ⟨container, all, rfl⟩ := Option.map_eq_some_iff.mp success
    exact (conforms_of_coerceAll? all).2
  next =>
    obtain ⟨container, all, rfl⟩ := Option.map_eq_some_iff.mp success
    exact (conforms_of_coerceAll? all).2
  next => cases success

theorem coerceAll?_of_homogeneous {container : Container} (homogeneous : container.Homogeneous) :
    coerceAll? container.baseType container.values = some container := by
  have unchanged : container.values.mapM (fun scalar => scalar.coerce? container.baseType) =
      some container.values := by
    refine mapM_eq_some_iff.mpr (List.forall₂_same.mpr fun scalar member => ?_)
    exact Scalar.coerce?_baseType (homogeneous scalar member)
  simp [coerceAll?, unchanged]

/-- A value that conforms is left alone. -/
theorem coerce?_of_conforms {type : DeclaredType} {value : Value}
    (conforms : value.Conforms type) : type.coerce? value = some value := by
  cases value with
  | null => cases type <;> rfl
  | single scalar =>
      rw [show type = .single scalar.baseType from conforms]
      simp [coerce?, Scalar.coerce?_baseType rfl]
  | multiple container =>
      obtain ⟨rfl, homogeneous⟩ := conforms
      simp [coerce?, coerceAll?_of_homogeneous homogeneous]
  | ordered container =>
      obtain ⟨rfl, homogeneous⟩ := conforms
      simp [coerce?, coerceAll?_of_homogeneous homogeneous]
  | record fields =>
      rw [show type = .record from conforms]
      rfl

theorem eq_null_iff_of_coerce? {type : DeclaredType} {value coerced : Value}
    (success : type.coerce? value = some coerced) : coerced = .null ↔ value = .null := by
  constructor
  · rintro rfl
    cases value with
    | null => rfl
    | _ => cases type <;> simp [coerce?] at success
  · rintro rfl
    cases type <;> exact (Option.some.inj success).symm

/-- A container stays one of its cardinality, with its scalars converted in their order. -/
theorem container?_of_coerce? {type : DeclaredType} {value coerced : Value}
    {container : Container} (success : type.coerce? value = some coerced)
    (holds : value.container? = some container) :
    ∃ converted, coerced.container? = some converted ∧
      coerced.cardinality? = value.cardinality? ∧
      List.Forall₂
        (fun original scalar : Scalar => original.coerce? converted.baseType = some scalar)
        container.values converted.values := by
  cases value with
  | null | single | record => cases holds
  | multiple original =>
      cases holds
      cases type with
      | multiple target =>
          obtain ⟨converted, all, rfl⟩ := Option.map_eq_some_iff.mp success
          obtain ⟨rfl, scalars⟩ := forall₂_of_coerceAll? all
          exact ⟨converted, rfl, rfl, scalars⟩
      | _ => cases success
  | ordered original =>
      cases holds
      cases type with
      | ordered target =>
          obtain ⟨converted, all, rfl⟩ := Option.map_eq_some_iff.mp success
          obtain ⟨rfl, scalars⟩ := forall₂_of_coerceAll? all
          exact ⟨converted, rfl, rfl, scalars⟩
      | _ => cases success

end DeclaredType

namespace Variable

variable {v : Variable}

theorem coerce_eq_ok_iff {value coerced : Value} :
    v.coerce value = .ok coerced ↔ v.type.coerce? value = some coerced := by
  unfold coerce
  cases v.type.coerce? value <;> simp

/-- What a variable makes of a value conforms to its declaration and is left alone from then
on, and it is `null` only for `null`; containers keep their size and the order of their
scalars.  A value that conforms is left alone at once. -/
theorem coerce_projects (v : Variable) (value : Value) :
    (∀ coerced, v.coerce value = .ok coerced →
      coerced.Conforms v.type ∧
        v.coerce coerced = .ok coerced ∧
        (coerced = .null ↔ value = .null) ∧
        ∀ container, value.container? = some container →
          ∃ converted, coerced.container? = some converted ∧
            coerced.cardinality? = value.cardinality? ∧
            converted.size = container.size ∧
            List.Forall₂
              (fun original scalar : Scalar => original.coerce? converted.baseType = some scalar)
              container.values converted.values) ∧
      (value.Conforms v.type → v.coerce value = .ok value) := by
  constructor
  · intro coerced success
    rw [coerce_eq_ok_iff] at success
    have conforms := DeclaredType.conforms_coerce? success
    have unchanged := coerce_eq_ok_iff.mpr (DeclaredType.coerce?_of_conforms conforms)
    refine ⟨conforms, unchanged, DeclaredType.eq_null_iff_of_coerce? success, ?_⟩
    intro container holds
    obtain ⟨converted, becomes, cardinality, scalars⟩ :=
      DeclaredType.container?_of_coerce? success holds
    exact ⟨converted, becomes, cardinality, scalars.length_eq.symm, scalars⟩
  · intro conforms
    exact coerce_eq_ok_iff.mpr (DeclaredType.coerce?_of_conforms conforms)

/-- A bag of floats loses the fractions, in a variable for integers. -/
theorem coerce_projects_truncated :
    let v : Variable :=
      ⟨"COUNTS", .multiple .integer, .template ⟨false, false⟩, .null, .null⟩
    let value : Value := .multiple ⟨.float, [.float 2.75, .float (-1.25), .float 2.75]⟩
    let coerced : Value := .multiple ⟨.integer, [.integer 2, .integer (-1), .integer 2]⟩
    v.coerce value = .ok coerced ∧ coerced.Conforms v.type ∧ v.coerce coerced = .ok coerced := by
  intro v value coerced
  have success : v.coerce value = .ok coerced := by decide +kernel
  obtain ⟨conforms, unchanged, _⟩ := (coerce_projects v value).1 coerced success
  exact ⟨success, conforms, unchanged⟩

theorem conforms_initialValue (conforms : v.defaultValue.Conforms v.type) :
    v.initialValue.Conforms v.type := by
  unfold initialValue
  split
  next =>
    split
    next _ type => rw [type]; rfl
    next _ type => rw [type]; rfl
    next => exact conforms
  next => exact conforms

theorem Conforming.reset (conforming : v.Conforming) : v.reset.Conforming :=
  ⟨conforms_initialValue conforming.2.1, conforming.2.1, conforming.2.2⟩

/-- Putting a value of the declared type anywhere keeps a variable conforming. -/
theorem Conforming.put (conforming : v.Conforming) {value : Value}
    (fits : value.Conforms v.type) (kind : AssignmentKind) :
    (kind.put value v).Conforming := by
  obtain ⟨valueFits, defaultFits, correctFits⟩ := conforming
  cases kind with
  | outcomeValue => exact ⟨fits, defaultFits, correctFits⟩
  | templateValue => exact ⟨fits, defaultFits, correctFits⟩
  | outcomeLookup => exact ⟨fits, defaultFits, correctFits⟩
  | defaultValue => exact ⟨valueFits, fits, correctFits⟩
  | correctResponse =>
      obtain ⟨identifier, type, role, value, defaultValue⟩ := v
      cases role with
      | response info =>
          refine ⟨valueFits, defaultFits, ?_⟩
          rintro _ ⟨rfl⟩
          exact fits
      | outcome info => exact ⟨valueFits, defaultFits, correctFits⟩
      | template info => exact ⟨valueFits, defaultFits, correctFits⟩

end Variable

end Assessment
