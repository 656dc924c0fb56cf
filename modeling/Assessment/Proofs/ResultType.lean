import Assessment.Evaluation
import Assessment.Proofs.ReadFrame
import Assessment.Proofs.Run
import Assessment.Proofs.SignatureCheck

/-!
# Types of results

Every operator has a type of result, which depends on its operands only where integers
are computed with apart from floats.  Whatever an operator gives is well formed and of
that type; errors are the only other way for it to end.
-/

namespace Assessment

namespace Value

variable {baseType : BaseType}

/-- The value is a single scalar of the base type. -/
def Is (baseType : BaseType) (value : Value) : Prop :=
  ∃ scalar, value = .single scalar ∧ scalar.baseType = baseType

def IsOrNull (baseType : BaseType) (value : Value) : Prop :=
  value = .null ∨ value.Is baseType

theorem is_single (scalar : Scalar) : (single scalar).Is scalar.baseType :=
  ⟨scalar, rfl, rfl⟩

theorem is_boolean (value : Bool) : (boolean value).Is .boolean :=
  is_single (.boolean value)

theorem is_integer (value : Int64) : (integer value).Is .integer :=
  is_single (.integer value)

theorem is_float (value : Float) : (float value).Is .float :=
  is_single (.float value)

theorem Is.orNull {value : Value} (is : value.Is baseType) : value.IsOrNull baseType :=
  .inr is

theorem Is.wellFormed {value : Value} (is : value.Is baseType) : value.WellFormed := by
  obtain ⟨scalar, rfl, _⟩ := is
  trivial

theorem IsOrNull.wellFormed {value : Value} (is : value.IsOrNull baseType) :
    value.WellFormed := by
  rcases is with rfl | is
  · trivial
  · exact is.wellFormed

/-- A value that has one of two types, depending on a condition, is well formed. -/
theorem wellFormed_of_either {condition : Prop} {value : Value} {yes no : BaseType}
    (ifTrue : condition → value.IsOrNull yes) (ifFalse : ¬condition → value.IsOrNull no) :
    value.WellFormed := by
  by_cases holds : condition
  · exact (ifTrue holds).wellFormed
  · exact (ifFalse holds).wellFormed

theorem isOrNull_ofTruth (truth : Truth) : (ofTruth truth).IsOrNull .boolean := by
  cases truth with
  | none => exact .inl rfl
  | some truth => exact (is_boolean truth).orNull

theorem isOrNull_ofFinite (x : Float) : (ofFinite x).IsOrNull .float := by
  unfold ofFinite
  split
  next => exact (is_float x).orNull
  next => exact .inl rfl

theorem is_of_ofInteger? {operator : String} {n : Int} {value : Value}
    (success : ofInteger? operator n = .ok value) : value.Is .integer := by
  unfold ofInteger? at success
  split at success
  next i _ =>
    cases success
    exact is_integer i
  next => cases success

end Value

open Value

/-! ## The types -/

/-- The container has scalars of its base type only, and so has every operand that is
not NULL. -/
structure Container.Gathers (container : Container) (operands : List Value) : Prop where
  homogeneous : container.Homogeneous
  typed : ∀ operand ∈ operands, operand.isNull ∨ operand.baseType? = some container.baseType

/-- What the operator gives for its operands. -/
def Operator.Yields (operator : Operator) (operands : List Value) (value : Value) : Prop :=
  match operator with
  | .and | .or | .not | .anyN .. | .identical | .stringMatch .. | .patternMatch _
  | .substring _ | .equal _ | .equalRounded .. | .compare _ | .compareDurations _ | .inside _
  | .member | .contains => value.IsOrNull .boolean
  | .isNull => value.Is .boolean
  | .containerSize => value.Is .integer
  | .integerDivide | .integerModulus | .truncate | .round | .gcd | .lcm
  | .math .floor | .math .ceil | .math .signum => value.IsOrNull .integer
  | .math .abs =>
      ((∀ operand ∈ operands, operand.Is .integer) → value.IsOrNull .integer) ∧
        ((¬∀ operand ∈ operands, operand.Is .integer) → value.IsOrNull .float)
  | .divide | .power | .roundTo .. | .integerToFloat | .math _ | .stats _ =>
      value.IsOrNull .float
  | .sum | .product | .subtract =>
      ((∀ operand ∈ operands, operand.Is .integer) → value.Is .integer) ∧
        ((¬∀ operand ∈ operands, operand.Is .integer) → value.IsOrNull .float)
  | .min | .max =>
      let integers := (∀ operand ∈ operands, operand.isNull = false) ∧
        ∀ scalar ∈ operands.flatMap scalars, scalar.baseType = .integer
      (integers → value.Is .integer) ∧ (¬integers → value.IsOrNull .float)
  | .multiple =>
      value = .null ∨ ∃ container, value = .multiple container ∧ container.Gathers operands
  | .ordered | .replicate _ =>
      value = .null ∨ ∃ container, value = .ordered container ∧ container.Gathers operands
  | .index _ | .random =>
      value = .null ∨ ∃ operand ∈ operands, ∃ scalar ∈ operand.scalars, value = .single scalar
  | .fieldValue field =>
      value = .null ∨ ∃ fields scalar, operands = [.record fields] ∧
        fields.get? field = some scalar ∧ value = .single scalar
  | .delete =>
      value = .null ∨ ∃ scalar operand, operands = [.single scalar, operand] ∧
        value.WellFormed ∧ value.cardinality? = operand.cardinality? ∧
        value.baseType? = operand.baseType?

/-! ## Operands -/

namespace Operator

variable {operator : Operator} {operands : List Value} {value : Value}

theorem unary_eq_ok {α : Type} {view : Value → Option α} {run : α → Evaluated Value}
    (success : operator.unary view run operands = .ok value) :
    ∃ operand viewed, operands = [operand] ∧ view operand = some viewed ∧
      run viewed = .ok value := by
  unfold unary at success
  split at success
  next operand =>
    split at success
    next viewed found => exact ⟨operand, viewed, rfl, found, success⟩
    next => cases success
  next => cases success

theorem binary_eq_ok {α β : Type} {leftView : Value → Option α} {rightView : Value → Option β}
    {run : α → β → Evaluated Value}
    (success : operator.binary leftView rightView run operands = .ok value) :
    ∃ left right leftViewed rightViewed, operands = [left, right] ∧
      leftView left = some leftViewed ∧ rightView right = some rightViewed ∧
      run leftViewed rightViewed = .ok value := by
  unfold binary at success
  split at success
  next left right =>
    split at success
    next leftFound rightFound => exact ⟨left, right, _, _, rfl, leftFound, rightFound, success⟩
    next => cases success
  next => cases success

/-- A function that always gives a value of some kind gives one for an operand, too. -/
theorem unary_gives {α : Type} {view : Value → Option α} {give : α → Value}
    {kind : Value → Prop} (gives : ∀ viewed, kind (give viewed))
    (success : operator.unary view (fun viewed => .ok (give viewed)) operands = .ok value) :
    kind value := by
  obtain ⟨_, viewed, _, _, run⟩ := unary_eq_ok success
  cases run
  exact gives viewed

theorem binary_gives {α β : Type} {leftView : Value → Option α} {rightView : Value → Option β}
    {give : α → β → Value} {kind : Value → Prop} (gives : ∀ a b, kind (give a b))
    (success : operator.binary leftView rightView (fun a b => .ok (give a b)) operands =
      .ok value) :
    kind value := by
  obtain ⟨_, _, a, b, _, _, _, run⟩ := binary_eq_ok success
  cases run
  exact gives a b

theorem numeric_eq_ok {onIntegers : List Int64 → Evaluated Value}
    {onFloats : List Float → Evaluated Value}
    (success : operator.numeric onIntegers onFloats operands = .ok value) :
    (∃ integers, operands.mapM Value.integer? = some integers ∧ onIntegers integers = .ok value) ∨
      operands.mapM Value.integer? = none ∧ ∃ floats, onFloats floats = .ok value := by
  unfold numeric at success
  split at success
  next integers found => exact .inl ⟨integers, found, success⟩
  next missing =>
    split at success
    next floats _ => exact .inr ⟨missing, floats, success⟩
    next => cases success

end Operator

/-! ## Arithmetic -/

namespace Arithmetic

variable {value : Value}

theorem is_of_foldIntegers {operator : String} {combine : Int → Int → Int} {start : Int64}
    {integers : List Int64} (success : foldIntegers operator combine start integers = .ok value) :
    value.Is .integer := by
  unfold foldIntegers at success
  split at success
  next total _ =>
    cases success
    exact is_integer total
  next => cases success

theorem isOrNull_divide (a b : Float) : (divide a b).IsOrNull .float := by
  unfold divide
  split
  next => exact .inl rfl
  next => exact isOrNull_ofFinite _

theorem isOrNull_of_integerDivide {a b : Int64} (success : integerDivide a b = .ok value) :
    value.IsOrNull .integer := by
  unfold integerDivide at success
  split at success
  next =>
    cases success
    exact .inl rfl
  next => exact (is_of_ofInteger? success).orNull

theorem isOrNull_of_integerModulus {a b : Int64} (success : integerModulus a b = .ok value) :
    value.IsOrNull .integer := by
  unfold integerModulus at success
  split at success
  next =>
    cases success
    exact .inl rfl
  next =>
    split at success
    next => exact (is_of_ofInteger? success).orNull
    next => cases success

theorem isOrNull_whole (part : Dyadic → Int) (x : Float) : (whole part x).IsOrNull .integer := by
  unfold whole
  split
  next i _ => exact (is_integer i).orNull
  next => exact .inl rfl

theorem isOrNull_of_roundTo {mode : RoundingMode} {figures : Int64} {x : Float}
    (success : roundTo mode figures x = .ok value) : value.IsOrNull .float := by
  obtain ⟨rounded, _, rest⟩ := bind_eq_ok_iff.mp success
  cases rounded with
  | none =>
      cases rest
      exact .inl rfl
  | some rounded =>
      cases rest
      exact (is_float rounded).orNull

theorem is_leastInteger {integers : List Int64} (nonempty : integers ≠ []) :
    (leastInteger integers).Is .integer := by
  cases integers with
  | nil => exact absurd rfl nonempty
  | cons i rest => exact is_integer _

theorem is_greatestInteger {integers : List Int64} (nonempty : integers ≠ []) :
    (greatestInteger integers).Is .integer := by
  cases integers with
  | nil => exact absurd rfl nonempty
  | cons i rest => exact is_integer _

theorem isOrNull_leastFloat (values : List Float) : (leastFloat values).IsOrNull .float :=
  isOrNull_ofFinite _

theorem isOrNull_greatestFloat (values : List Float) :
    (greatestFloat values).IsOrNull .float :=
  isOrNull_ofFinite _

theorem isOrNull_signum (x : Float) : (signum x).IsOrNull .integer := by
  unfold signum
  split
  next => exact .inl rfl
  next =>
    split
    next => exact (is_integer 1).orNull
    next =>
      split
      next => exact (is_integer (-1)).orNull
      next => exact (is_integer 0).orNull

theorem isOrNull_absInteger (i : Int64) : (absInteger i).IsOrNull .integer := by
  unfold absInteger
  split
  next magnitude _ => exact (is_integer magnitude).orNull
  next => exact .inl rfl

theorem isOrNull_statistic (function : StatsFunction) (values : List Float) :
    (statistic function values).IsOrNull .float := by
  unfold statistic
  split
  next => exact .inl rfl
  next =>
    cases function with
    | mean | popVariance | popSD => exact isOrNull_ofFinite _
    | sampleVariance | sampleSD =>
        dsimp only
        split
        next => exact .inl rfl
        next => exact isOrNull_ofFinite _

end Arithmetic

/-! ## Comparisons -/

namespace Comparison

variable {value : Value}

theorem is_of_identical {a b : Value} (success : identical a b = .ok value) :
    value.Is .boolean := by
  unfold identical at success
  split at success
  next =>
    cases success
    exact is_boolean _
  next => cases success

theorem is_of_equal {store : Store} {equality : Equality} {a b : Float}
    (success : equal store equality a b = .ok value) : value.Is .boolean := by
  unfold equal at success
  split at success
  next =>
    cases success
    exact is_boolean _
  next =>
    obtain ⟨_, _, rest⟩ := bind_eq_ok_iff.mp success
    obtain ⟨_, _, rest⟩ := bind_eq_ok_iff.mp rest
    cases rest
    exact is_boolean _

theorem isOrNull_of_equalRounded {mode : RoundingMode} {figures : Int64} {a b : Float}
    (success : equalRounded mode figures a b = .ok value) : value.IsOrNull .boolean := by
  obtain ⟨_, _, rest⟩ := bind_eq_ok_iff.mp success
  obtain ⟨_, _, rest⟩ := bind_eq_ok_iff.mp rest
  split at rest
  next =>
    cases rest
    exact (is_boolean _).orNull
  next =>
    cases rest
    exact .inl rfl

end Comparison

/-! ## Collections -/

theorem Value.baseType_of_mem_scalars {operand : Value} {baseType : BaseType} {scalar : Scalar}
    (wellFormed : operand.WellFormed) (declared : operand.baseType? = some baseType)
    (member : scalar ∈ operand.scalars) : scalar.baseType = baseType := by
  cases operand with
  | null | record => cases member
  | single alone =>
      cases declared
      rw [List.mem_singleton.mp member]
  | multiple container | ordered container =>
      cases declared
      exact wellFormed scalar member

namespace Collection

variable {value : Value} {operands : List Value}

theorem mem_parts {part : BaseType × List Scalar} (member : part ∈ parts operands) :
    ∃ operand ∈ operands, operand.baseType? = some part.1 ∧ operand.scalars = part.2 := by
  obtain ⟨operand, kept, found⟩ := List.mem_filterMap.mp member
  obtain ⟨baseType, declared, rfl⟩ := Option.map_eq_some_iff.mp found
  exact ⟨operand, (List.mem_filter.mp kept).1, declared, rfl⟩

theorem mem_parts_of_not_null {operand : Value} {baseType : BaseType} (member : operand ∈ operands)
    (notNull : operand.isNull = false) (declared : operand.baseType? = some baseType) :
    (baseType, operand.scalars) ∈ parts operands :=
  List.mem_filterMap.mpr ⟨operand, List.mem_filter.mpr ⟨member, by simp [notNull]⟩,
    by simp [declared]⟩

theorem parts_of_gather {operator : String} {container : Container}
    (success : gather operator operands = .ok (some container)) :
    (∀ part ∈ parts operands, part.1 = container.baseType) ∧
      ∀ scalar ∈ container.values, ∃ part ∈ parts operands, scalar ∈ part.2 := by
  unfold gather at success
  split at success
  next => cases success
  next baseType scalars rest found =>
    rw [found]
    split at success
    next => cases success
    next noStranger =>
      cases success
      refine ⟨List.forall_mem_cons.mpr ⟨rfl, fun part member => ?_⟩, fun scalar member => ?_⟩
      · have same := List.find?_eq_none.mp noStranger part member
        simpa using same
      · rcases List.mem_append.mp member with first | later
        · exact ⟨_, List.mem_cons_self, first⟩
        · obtain ⟨part, partMember, scalarMember⟩ := List.mem_flatMap.mp later
          exact ⟨part, List.mem_cons_of_mem _ partMember, scalarMember⟩

theorem homogeneous_of_gather {operator : String} {container : Container}
    (wellFormed : ∀ operand ∈ operands, operand.WellFormed)
    (success : gather operator operands = .ok (some container)) : container.Homogeneous := by
  obtain ⟨uniform, scalars⟩ := parts_of_gather success
  intro scalar member
  obtain ⟨part, partMember, scalarMember⟩ := scalars scalar member
  obtain ⟨operand, operandMember, declared, same⟩ := mem_parts partMember
  rw [← uniform part partMember]
  exact baseType_of_mem_scalars (wellFormed operand operandMember) declared (same ▸ scalarMember)

/-- All that is gathered has one base type: the parts are homogeneous by themselves, and
no part of another base type is accepted. -/
theorem gathers_of_gather {operator : String} {container : Container}
    (wellFormed : ∀ operand ∈ operands, operand.WellFormed)
    (typed : ∀ operand ∈ operands, operand.isNull ∨ operand.baseType?.isSome)
    (success : gather operator operands = .ok (some container)) : container.Gathers operands := by
  have uniform := (parts_of_gather success).1
  refine ⟨homogeneous_of_gather wellFormed success, fun operand member => ?_⟩
  rcases typed operand member with null | declared
  · exact .inl null
  · by_cases null : operand.isNull
    · exact .inl null
    · obtain ⟨baseType, declared⟩ := Option.isSome_iff_exists.mp declared
      have part := mem_parts_of_not_null member (by simpa using null) declared
      rw [declared, ← uniform _ part]
      exact .inr rfl

theorem gathers_of_collect {operator : String} {wrap : Container → Value}
    (wellFormed : ∀ operand ∈ operands, operand.WellFormed)
    (typed : ∀ operand ∈ operands, operand.isNull ∨ operand.baseType?.isSome)
    (success : collect operator wrap operands = .ok value) :
    value = .null ∨ ∃ container, value = wrap container ∧ container.Gathers operands := by
  obtain ⟨gathered, found, rest⟩ := bind_eq_ok_iff.mp success
  cases gathered with
  | none =>
      cases rest
      exact .inl rfl
  | some container =>
      cases rest
      exact .inr ⟨container, rfl, gathers_of_gather wellFormed typed found⟩

/-- Repeating scalars brings in none of another base type. -/
theorem gathers_of_replicate {limit : Nat} {count : Int64}
    (wellFormed : ∀ operand ∈ operands, operand.WellFormed)
    (typed : ∀ operand ∈ operands, operand.isNull ∨ operand.baseType?.isSome)
    (success : replicate limit count operands = .ok value) :
    value = .null ∨ ∃ container, value = .ordered container ∧ container.Gathers operands := by
  unfold replicate at success
  split at success
  next =>
    cases success
    exact .inl rfl
  next =>
    obtain ⟨gathered, found, rest⟩ := bind_eq_ok_iff.mp success
    cases gathered with
    | none =>
        cases rest
        exact .inl rfl
    | some once =>
        dsimp only at rest
        split at rest
        next => cases rest
        next =>
          cases rest
          have gathers := gathers_of_gather wellFormed typed found
          refine .inr ⟨_, rfl, fun scalar member => ?_, gathers.typed⟩
          obtain ⟨copy, copyMember, scalarMember⟩ := List.mem_flatten.mp member
          rw [(List.mem_replicate.mp copyMember).2] at scalarMember
          exact gathers.homogeneous scalar scalarMember

theorem scalars_of_container? {operand : Value} {container : Container}
    (found : operand.container? = some container) : operand.scalars = container.values := by
  cases operand <;> cases found <;> rfl

theorem scalar_of_index {container : Container} {position : Int64}
    (success : index container position = .ok value) :
    value = .null ∨ ∃ scalar ∈ container.values, value = .single scalar := by
  unfold index at success
  split at success
  next => cases success
  next =>
    cases success
    cases found : container.values[position.toInt.toNat - 1]? with
    | none => exact .inl rfl
    | some scalar => exact .inr ⟨scalar, List.mem_of_getElem? found, rfl⟩

theorem is_of_member {scalar : Scalar} {operand : Value}
    (success : member scalar operand = .ok value) : value.Is .boolean := by
  unfold member at success
  split at success
  next =>
    cases success
    exact is_boolean _
  next => cases success

theorem is_of_contains {a b : Value} (success : contains a b = .ok value) :
    value.Is .boolean := by
  unfold contains at success
  split at success
  next =>
    split at success
    next =>
      cases success
      exact is_boolean _
    next =>
      cases success
      exact is_boolean _
    next => cases success
  next => cases success

theorem homogeneous_without {scalar : Scalar} {container : Container}
    (homogeneous : container.Homogeneous) : (without scalar container).Homogeneous :=
  fun value member => homogeneous value (List.mem_filter.mp member).1

theorem sameType_of_delete {scalar : Scalar} {operand : Value}
    (wellFormed : operand.WellFormed) (success : delete scalar operand = .ok value) :
    value.WellFormed ∧ value.cardinality? = operand.cardinality? ∧
      value.baseType? = operand.baseType? := by
  unfold delete at success
  split at success
  next =>
    split at success
    next =>
      cases success
      exact ⟨homogeneous_without wellFormed, rfl, rfl⟩
    next =>
      cases success
      exact ⟨homogeneous_without wellFormed, rfl, rfl⟩
    next => cases success
  next => cases success

end Collection

/-! ## Integers apart from floats -/

theorem Scalar.isSome_integer?_iff {scalar : Scalar}
    (typed : scalar.baseType = .integer ∨ scalar.baseType = .float) :
    scalar.integer?.isSome ↔ scalar.baseType = .integer := by
  cases scalar <;> simp_all [integer?, baseType]

namespace Value

variable {operand : Value}

theorem isNull_eq_false_of_is_integer (integer : operand.Is .integer) :
    operand.isNull = false := by
  obtain ⟨scalar, rfl, typed⟩ := integer
  cases scalar with
  | string text => cases typed
  | _ => rfl

theorem isSome_integer?_iff (typed : operand.Is .integer ∨ operand.Is .float) :
    operand.integer?.isSome ↔ operand.Is .integer := by
  obtain ⟨scalar, rfl⟩ : ∃ scalar, operand = .single scalar := by
    rcases typed with ⟨scalar, same, _⟩ | ⟨scalar, same, _⟩ <;> exact ⟨scalar, same⟩
  simp only [Is, single.injEq, exists_eq_left'] at typed ⊢
  exact Scalar.isSome_integer?_iff typed

theorem is_integer_or_float (admits : Accepts.Admits ⟨[.single], Accepts.numeric⟩ operand)
    (notNull : operand.isNull = false) : operand.Is .integer ∨ operand.Is .float := by
  obtain ⟨scalar, rfl⟩ := admits.exists_single rfl notNull
  obtain ⟨baseType, listed, declared⟩ := admits.baseType_mem (by decide) notNull
  obtain rfl : scalar.baseType = baseType := Option.some.inj declared
  rcases List.mem_cons.mp listed with integer | listed
  · exact .inl ⟨scalar, rfl, integer⟩
  · exact .inr ⟨scalar, rfl, List.mem_singleton.mp listed⟩

theorem scalars_ne_nil (admits : Accepts.Admits ⟨Accepts.scalars, Accepts.numeric⟩ operand)
    (notNull : operand.isNull = false) : operand.scalars ≠ [] := by
  cases operand with
  | null => cases notNull
  | single scalar => simp [scalars]
  | multiple container | ordered container =>
      simpa [isNull, Container.isEmpty, scalars] using notNull
  | record fields => exact absurd (admits .record rfl).1 (by decide)

end Value

namespace Operator

variable {operator : Operator} {operands : List Value} {value : Value}

theorem yields_of_numeric {onIntegers : List Int64 → Evaluated Value}
    {onFloats : List Float → Evaluated Value}
    (typed : ∀ operand ∈ operands, operand.Is .integer ∨ operand.Is .float)
    (isInteger : ∀ integers, onIntegers integers = .ok value → value.Is .integer)
    (isFloat : ∀ floats, onFloats floats = .ok value → value.IsOrNull .float)
    (success : operator.numeric onIntegers onFloats operands = .ok value) :
    ((∀ operand ∈ operands, operand.Is .integer) → value.Is .integer) ∧
      ((¬∀ operand ∈ operands, operand.Is .integer) → value.IsOrNull .float) := by
  have allIntegers : (operands.mapM Value.integer?).isSome ↔
      ∀ operand ∈ operands, operand.Is .integer := by
    rw [isSome_mapM_iff]
    exact forall₂_congr fun operand member => isSome_integer?_iff (typed operand member)
  rcases numeric_eq_ok success with ⟨integers, found, run⟩ | ⟨missing, floats, run⟩
  · have all := allIntegers.mp (by simp [found])
    exact ⟨fun _ => isInteger integers run, fun mixed => absurd all mixed⟩
  · have mixed : ¬∀ operand ∈ operands, operand.Is .integer := by
      rw [← allIntegers, missing]
      simp
    exact ⟨fun all => absurd all mixed, fun _ => isFloat floats run⟩

/-- The operands of `min` and `max` have at least one scalar, and only numbers. -/
theorem numbers_of_admits
    (admits : ∀ operand ∈ operands, Accepts.Admits ⟨Accepts.scalars, Accepts.numeric⟩ operand)
    (wellFormed : ∀ operand ∈ operands, operand.WellFormed)
    (notNull : ∀ operand ∈ operands, operand.isNull = false) (some : 1 ≤ operands.length) :
    operands.flatMap scalars ≠ [] ∧ ∀ scalar ∈ operands.flatMap scalars,
      scalar.baseType = .integer ∨ scalar.baseType = .float := by
  constructor
  · cases operands with
    | nil => exact absurd some (by decide)
    | cons operand rest =>
        have first := scalars_ne_nil (admits operand List.mem_cons_self)
          (notNull operand List.mem_cons_self)
        simp [first]
  · intro scalar member
    obtain ⟨operand, operandMember, scalarMember⟩ := List.mem_flatMap.mp member
    obtain ⟨baseType, listed, declared⟩ := (admits operand operandMember).baseType_mem
      (by decide) (notNull operand operandMember)
    rw [baseType_of_mem_scalars (wellFormed operand operandMember) declared scalarMember]
    simpa [Accepts.numeric] using listed

/-- Operands that are not NULL, with numbers in them, give an integer or a float according
to these numbers. -/
theorem yields_overNumbers {onIntegers : List Int64 → Value} {onFloats : List Float → Value}
    (notNull : ∀ operand ∈ operands, operand.isNull = false)
    (nonempty : operands.flatMap scalars ≠ [])
    (typed : ∀ scalar ∈ operands.flatMap scalars,
      scalar.baseType = .integer ∨ scalar.baseType = .float)
    (isInteger : ∀ integers, integers ≠ [] → (onIntegers integers).Is .integer)
    (isFloat : ∀ floats, (onFloats floats).IsOrNull .float) :
    let integers := (∀ operand ∈ operands, operand.isNull = false) ∧
      ∀ scalar ∈ operands.flatMap scalars, scalar.baseType = .integer
    (integers → (overNumbers onIntegers onFloats operands).Is .integer) ∧
      (¬integers → (overNumbers onIntegers onFloats operands).IsOrNull .float) := by
  have allIntegers : ((operands.flatMap scalars).mapM Scalar.integer?).isSome ↔
      ∀ scalar ∈ operands.flatMap scalars, scalar.baseType = .integer := by
    rw [isSome_mapM_iff]
    exact forall₂_congr fun scalar member => Scalar.isSome_integer?_iff (typed scalar member)
  cases found : (operands.flatMap scalars).mapM Scalar.integer? with
  | some integers =>
      have all := allIntegers.mp (by simp [found])
      have some : integers ≠ [] := by
        rintro rfl
        cases scalars : operands.flatMap scalars with
        | nil => exact nonempty scalars
        | cons scalar rest =>
            rw [scalars] at found
            cases mapM_eq_some_iff.mp found
      simp only [overNumbers, found]
      exact ⟨fun _ => isInteger integers some, fun mixed => absurd ⟨notNull, all⟩ mixed⟩
  | none =>
      have mixed : ¬∀ scalar ∈ operands.flatMap scalars, scalar.baseType = .integer := by
        rw [← allIntegers, found]
        simp
      simp only [overNumbers, found]
      exact ⟨fun all => absurd all.2 mixed, fun _ => isFloat _⟩

end Operator

/-! ## Operators -/

namespace Operator

variable {operator : Operator} {operands : List Value} {value : Value}

theorem Yields.wellFormed (yields : operator.Yields operands value) : value.WellFormed := by
  cases operator with
  | and | or | not | anyN | identical | stringMatch | patternMatch | substring | equal
  | equalRounded | compare | compareDurations | inside | member | contains | integerDivide
  | integerModulus | truncate | round | gcd | lcm | divide | power | roundTo | integerToFloat
  | stats => exact IsOrNull.wellFormed yields
  | isNull | containerSize => exact Is.wellFormed yields
  | math function =>
      cases function with
      | abs => exact wellFormed_of_either yields.1 yields.2
      | _ => exact IsOrNull.wellFormed yields
  | sum | product | subtract | min | max =>
      exact wellFormed_of_either (fun holds => (yields.1 holds).orNull) yields.2
  | multiple | ordered | replicate =>
      rcases yields with rfl | ⟨container, rfl, gathers⟩
      · trivial
      · exact gathers.homogeneous
  | index | random =>
      rcases yields with rfl | ⟨_, _, scalar, _, rfl⟩ <;> trivial
  | fieldValue =>
      rcases yields with rfl | ⟨_, scalar, _, _, rfl⟩ <;> trivial
  | delete =>
      rcases yields with rfl | ⟨_, _, _, wellFormed, _⟩
      · trivial
      · exact wellFormed

/-- NULL is a result that every operator which propagates it may give. -/
theorem yields_null (propagates : operator.signature.propagatesNull = true)
    (null : ∃ operand ∈ operands, operand.isNull = true) : operator.Yields operands .null := by
  have notAll : ¬∀ operand ∈ operands, operand.Is .integer := by
    intro all
    obtain ⟨operand, member, isNull⟩ := null
    rw [isNull_eq_false_of_is_integer (all operand member)] at isNull
    cases isNull
  cases operator with
  | and | or | anyN | multiple | ordered | containerSize | isNull | replicate => cases propagates
  | sum | product | subtract => exact ⟨fun all => absurd all notAll, fun _ => .inl rfl⟩
  | min | max =>
      refine ⟨fun ⟨notNull, _⟩ => ?_, fun _ => .inl rfl⟩
      obtain ⟨operand, member, isNull⟩ := null
      rw [notNull operand member] at isNull
      cases isNull
  | math function =>
      cases function with
      | abs => exact ⟨fun _ => .inl rfl, fun _ => .inl rfl⟩
      | _ => exact .inl rfl
  | _ => exact .inl rfl

theorem numbers (admits : operator.signature.Admits operands)
    (one : operator.signature.operands = [⟨[.single], Accepts.numeric⟩])
    (notNull : ∀ operand ∈ operands, operand.isNull = false) :
    ∀ operand ∈ operands, operand.Is .integer ∨ operand.Is .float :=
  fun operand member => is_integer_or_float (admits.all one operand member)
    (notNull operand member)

theorem is_of_matchPattern {pattern text : String}
    (success : operator.matchPattern pattern text = .ok value) : value.Is .boolean := by
  unfold matchPattern at success
  split at success
  next =>
    cases success
    exact is_boolean _
  next => cases success

theorem apply_of_applyFunction {function : MathFunction} {scalar : Scalar}
    (different : function ≠ .abs)
    (success : operator.applyFunction function scalar = .ok value) :
    ∃ x, value = Arithmetic.apply function x := by
  unfold applyFunction at success
  split at success
  next => exact absurd rfl different
  next =>
    split at success
    next x _ =>
      cases success
      exact ⟨x, rfl⟩
    next => cases success

/-- The magnitude of an integer is an integer, of any other number a float. -/
theorem isOrNull_of_absolute {scalar : Scalar}
    (success : operator.applyFunction .abs scalar = .ok value) :
    (scalar.baseType = .integer → value.IsOrNull .integer) ∧
      (scalar.baseType ≠ .integer → value.IsOrNull .float) := by
  cases scalar with
  | integer i =>
      cases success
      exact ⟨fun _ => Arithmetic.isOrNull_absInteger i, fun other => absurd rfl other⟩
  | float x =>
      cases success
      exact ⟨fun typed => (nomatch typed), fun _ => isOrNull_ofFinite _⟩
  | _ => cases success

theorem yields_of_math {function : MathFunction} {store : Store} {limit : Nat}
    (success : (math function).compute store limit operands = .ok value) :
    (math function).Yields operands value := by
  unfold compute at success
  cases function with
  | atan2 => exact binary_gives (fun _ _ => isOrNull_ofFinite _) success
  | abs =>
      obtain ⟨operand, scalar, rfl, found, run⟩ := unary_eq_ok success
      obtain rfl : operand = .single scalar := by
        cases operand <;> cases found
        rfl
      have typed : (∀ operand ∈ [Value.single scalar], operand.Is .integer) ↔
          scalar.baseType = .integer := by
        simp [Value.Is]
      obtain ⟨integer, other⟩ := isOrNull_of_absolute run
      exact ⟨fun all => integer (typed.mp all), fun mixed => other (mt typed.mpr mixed)⟩
  | floor | ceil =>
      obtain ⟨_, _, rfl, _, run⟩ := unary_eq_ok success
      obtain ⟨x, rfl⟩ := apply_of_applyFunction (by decide) run
      exact Arithmetic.isOrNull_whole _ x
  | signum =>
      obtain ⟨_, _, rfl, _, run⟩ := unary_eq_ok success
      obtain ⟨x, rfl⟩ := apply_of_applyFunction (by decide) run
      exact Arithmetic.isOrNull_signum x
  | _ =>
      obtain ⟨_, _, rfl, _, run⟩ := unary_eq_ok success
      obtain ⟨x, rfl⟩ := apply_of_applyFunction (by decide) run
      exact isOrNull_ofFinite _

/-- What is computed from admitted operands has the type of the operator. -/
theorem yields_of_compute {store : Store} {limit : Nat}
    (admits : operator.signature.Admits operands)
    (wellFormed : ∀ operand ∈ operands, operand.WellFormed)
    (notNull : operator.signature.propagatesNull = true →
      ∀ operand ∈ operands, operand.isNull = false)
    (success : operator.compute store limit operands = .ok value) :
    operator.Yields operands value := by
  unfold compute at success
  cases operator with
  | and | or =>
      cases success
      exact isOrNull_ofTruth _
  | not => exact unary_gives (fun _ => isOrNull_ofTruth _) success
  | anyN least most =>
      obtain ⟨_, _, rest⟩ := bind_eq_ok_iff.mp success
      obtain ⟨_, _, rest⟩ := bind_eq_ok_iff.mp rest
      cases rest
      exact isOrNull_ofTruth _
  | identical =>
      obtain ⟨_, _, _, _, rfl, _, _, run⟩ := binary_eq_ok success
      exact (Comparison.is_of_identical run).orNull
  | stringMatch | substring | compare | compareDurations =>
      exact binary_gives (fun _ _ => (is_boolean _).orNull) success
  | patternMatch pattern =>
      obtain ⟨_, _, rest⟩ := bind_eq_ok_iff.mp success
      obtain ⟨_, _, rfl, _, run⟩ := unary_eq_ok rest
      exact (is_of_matchPattern run).orNull
  | equal equality =>
      obtain ⟨_, _, _, _, rfl, _, _, run⟩ := binary_eq_ok success
      exact (Comparison.is_of_equal run).orNull
  | equalRounded mode figures =>
      obtain ⟨_, _, rest⟩ := bind_eq_ok_iff.mp success
      obtain ⟨_, _, _, _, rfl, _, _, run⟩ := binary_eq_ok rest
      exact Comparison.isOrNull_of_equalRounded run
  | inside => exact unary_gives (fun _ => (is_boolean _).orNull) success
  | sum | product =>
      refine yields_of_numeric (numbers admits rfl (notNull rfl))
        (fun _ => Arithmetic.is_of_foldIntegers) (fun floats run => ?_) success
      cases run
      exact isOrNull_ofFinite _
  | subtract =>
      refine yields_of_numeric (numbers admits rfl (notNull rfl)) (fun integers run => ?_)
        (fun floats run => ?_) success
      · split at run
        next => exact is_of_ofInteger? run
        next => cases run
      · split at run
        next =>
          cases run
          exact isOrNull_ofFinite _
        next => cases run
  | divide => exact binary_gives Arithmetic.isOrNull_divide success
  | power => exact binary_gives (fun _ _ => isOrNull_ofFinite _) success
  | integerDivide =>
      obtain ⟨_, _, _, _, rfl, _, _, run⟩ := binary_eq_ok success
      exact Arithmetic.isOrNull_of_integerDivide run
  | integerModulus =>
      obtain ⟨_, _, _, _, rfl, _, _, run⟩ := binary_eq_ok success
      exact Arithmetic.isOrNull_of_integerModulus run
  | truncate | round => exact unary_gives (fun _ => Arithmetic.isOrNull_whole _ _) success
  | roundTo mode figures =>
      obtain ⟨_, _, rest⟩ := bind_eq_ok_iff.mp success
      obtain ⟨_, _, rfl, _, run⟩ := unary_eq_ok rest
      exact Arithmetic.isOrNull_of_roundTo run
  | integerToFloat => exact unary_gives (fun _ => (is_float _).orNull) success
  | gcd | lcm => exact (is_of_ofInteger? success).orNull
  | min =>
      cases success
      obtain ⟨nonempty, typed⟩ := numbers_of_admits (admits.all rfl) wellFormed (notNull rfl)
        admits.least
      exact yields_overNumbers (notNull rfl) nonempty typed
        (fun _ => Arithmetic.is_leastInteger) Arithmetic.isOrNull_leastFloat
  | max =>
      cases success
      obtain ⟨nonempty, typed⟩ := numbers_of_admits (admits.all rfl) wellFormed (notNull rfl)
        admits.least
      exact yields_overNumbers (notNull rfl) nonempty typed
        (fun _ => Arithmetic.is_greatestInteger) Arithmetic.isOrNull_greatestFloat
  | math function => exact yields_of_math success
  | stats => exact unary_gives (fun _ => Arithmetic.isOrNull_statistic _ _) success
  | multiple | ordered =>
      refine Collection.gathers_of_collect wellFormed (fun operand member => ?_) success
      exact (admits.all rfl operand member).hasBaseType (by decide)
  | containerSize => exact unary_gives (fun _ => is_integer _) success
  | isNull => exact unary_gives (fun _ => is_boolean _) success
  | index position =>
      obtain ⟨_, _, rest⟩ := bind_eq_ok_iff.mp success
      obtain ⟨operand, container, rfl, found, run⟩ := unary_eq_ok rest
      rcases Collection.scalar_of_index run with null | ⟨scalar, member, single⟩
      · exact .inl null
      · rw [← Collection.scalars_of_container? found] at member
        exact .inr ⟨operand, List.mem_singleton_self _, scalar, member, single⟩
  | fieldValue field =>
      obtain ⟨operand, fields, rfl, found, run⟩ := unary_eq_ok success
      obtain rfl : operand = .record fields := by
        cases operand <;> cases found
        rfl
      cases run
      cases there : fields.get? field with
      | none => exact .inl rfl
      | some scalar => exact .inr ⟨fields, scalar, rfl, there, rfl⟩
  | random => cases success
  | member =>
      obtain ⟨_, _, _, _, rfl, _, _, run⟩ := binary_eq_ok success
      exact (Collection.is_of_member run).orNull
  | delete =>
      obtain ⟨left, right, scalar, operand, rfl, found, same, run⟩ := binary_eq_ok success
      obtain rfl : left = .single scalar := by
        cases left <;> cases found
        rfl
      cases same
      have rightWellFormed := wellFormed right (by simp)
      exact .inr ⟨scalar, right, rfl, Collection.sameType_of_delete rightWellFormed run⟩
  | contains =>
      obtain ⟨_, _, _, _, rfl, _, _, run⟩ := binary_eq_ok success
      exact (Collection.is_of_contains run).orNull
  | replicate count =>
      obtain ⟨_, _, rest⟩ := bind_eq_ok_iff.mp success
      refine Collection.gathers_of_replicate wellFormed (fun operand member => ?_) rest
      exact (admits.all rfl operand member).hasBaseType (by decide)

theorem yields_of_drawScalar {operand : Value} {source : RandomSource}
    (success : ((Evaluation.drawScalar operand).run.run source).1 = .ok value) :
    Operator.random.Yields [operand] value := by
  unfold Evaluation.drawScalar at success
  cases found : operand.container? with
  | none =>
      simp only [found] at success
      cases success
      exact .inl rfl
  | some container =>
      simp only [found] at success
      split at success
      next =>
        cases success
        exact .inl rfl
      next =>
        rw [run_run_bind] at success
        split at success
        next position _ =>
          cases success
          cases there : container.values[position]? with
          | none => exact .inl rfl
          | some scalar =>
              refine .inr ⟨operand, List.mem_singleton_self _, scalar, ?_, rfl⟩
              rw [Collection.scalars_of_container? found]
              exact List.mem_of_getElem? there
        next => cases success

/-- Whatever an operator gives for homogeneous operands is well formed and of the type of
the operator, for all attributes, variables, limits and random draws. -/
theorem apply_wellFormed_and_yields {context : Context} {source : RandomSource}
    (wellFormed : ∀ operand ∈ operands, operand.WellFormed)
    (success : ((operator.apply context operands).run.run source).1 = .ok value) :
    value.WellFormed ∧ operator.Yields operands value := by
  suffices yields : operator.Yields operands value from ⟨yields.wellFormed, yields⟩
  unfold apply at success
  rw [run_run_bind] at success
  cases checked : operator.signature.check operator.name operands with
  | error error =>
      rw [checked] at success
      cases success
  | ok admitted =>
      have admits := Signature.check_eq_ok_iff.mp checked
      have passed : ((liftM (operator.signature.check operator.name operands) :
          Evaluation Unit).run.run source) = (.ok admitted, source) := by
        rw [checked]
        rfl
      rw [passed] at success
      dsimp only at success
      split at success
      next null =>
        cases success
        rw [Bool.and_eq_true, List.any_eq_true] at null
        exact yields_null null.1 null.2
      next notNull =>
        split at success
        next operand => exact yields_of_drawScalar success
        next =>
          refine yields_of_compute admits wellFormed (fun propagates operand member => ?_) success
          rw [Bool.and_eq_true, List.any_eq_true] at notNull
          exact eq_false_of_ne_true fun isNull => notNull ⟨propagates, operand, member, isNull⟩

/-- An integer among floats counts as a float. -/
theorem apply_wellFormed_and_yields_max :
    let context : Context := ⟨⟨Settings.default, Registry.standard⟩, ⟨[]⟩⟩
    let operands : List Value := [.integer 2, .multiple ⟨.float, [.float 1.5, .float 2.5]⟩]
    ((Operator.max.apply context operands).run.run (RandomSource.ofSeed 0)).1 =
        .ok (.float 2.5) ∧
      (Value.float 2.5).WellFormed ∧ Operator.max.Yields operands (.float 2.5) := by
  intro context operands
  have success : ((Operator.max.apply context operands).run.run (RandomSource.ofSeed 0)).1 =
      .ok (.float 2.5) := by
    decide +kernel
  refine ⟨success, apply_wellFormed_and_yields ?_ success⟩
  simp [operands, WellFormed, Value.integer, Container.Homogeneous, Scalar.baseType]

end Operator

end Assessment
