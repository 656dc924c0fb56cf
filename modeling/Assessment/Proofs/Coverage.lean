import Assessment.Proofs.OwnErrors
import Assessment.Proofs.SignatureCheck

/-!
# Operators find their operands

Operators read their operands by position and as scalars of some base type.  After the
check of their signature, and unless NULL makes the result NULL before, all that they read
is there.  The operators of the standard registry count their operands themselves.
-/

namespace Assessment

namespace Evaluated

variable {α β : Type}

/-- Whatever the result is, the operator found its operands. -/
def Covered (result : Evaluated α) : Prop :=
  ∀ operator, result ≠ .error (.misapplied operator)

theorem OwnErrors.covered {result : Evaluated α} (own : OwnErrors result) : Covered result := by
  rintro operator rfl
  cases own _ rfl

theorem covered_ok (value : α) : Covered (.ok value) :=
  nofun

theorem covered_of_error {error : EvalError} (other : ∀ operator, error ≠ .misapplied operator) :
    Covered (α := α) (.error error) := by
  rintro operator same
  cases same
  exact other operator rfl

theorem covered_bind {first : Evaluated α} {next : α → Evaluated β} (covered : Covered first)
    (coveredNext : ∀ value, first = .ok value → Covered (next value)) :
    Covered (first >>= next) := by
  cases first with
  | ok value => exact coveredNext value rfl
  | error error =>
      intro operator same
      cases same
      exact covered operator rfl

theorem covered_ite {condition : Prop} [Decidable condition] {yes no : Evaluated α}
    (coveredYes : condition → Covered yes) (coveredNo : ¬condition → Covered no) :
    Covered (if condition then yes else no) := by
  by_cases holds : condition
  · rw [if_pos holds]
    exact coveredYes holds
  · rw [if_neg holds]
    exact coveredNo holds

end Evaluated

open Evaluated

/-! ## Operands -/

namespace Signature

variable {signature : Signature} {operands : List Value}

theorem Admits.exists_one {accepts : Accepts} (admits : signature.Admits operands)
    (least : signature.least = 1) (most : signature.most = some 1)
    (entry : signature.accepts? 0 = some accepts) :
    ∃ operand, operands = [operand] ∧ accepts.Admits operand := by
  have few := admits.most 1 most
  have enough := admits.least
  rw [least] at enough
  obtain ⟨operand, rfl⟩ := List.length_eq_one_iff.mp (Nat.le_antisymm few enough)
  exact ⟨operand, rfl, admits.each 0 operand rfl accepts entry⟩

theorem Admits.exists_two {left right : Accepts} (admits : signature.Admits operands)
    (least : signature.least = 2) (most : signature.most = some 2)
    (first : signature.accepts? 0 = some left) (second : signature.accepts? 1 = some right) :
    ∃ a b, operands = [a, b] ∧ left.Admits a ∧ right.Admits b := by
  have few := admits.most 2 most
  have enough := admits.least
  rw [least] at enough
  obtain ⟨a, b, rfl⟩ := List.length_eq_two.mp (Nat.le_antisymm few enough)
  exact ⟨a, b, rfl, admits.each 0 a rfl left first, admits.each 1 b rfl right second⟩

end Signature

namespace Accepts

variable {operand : Value}

/-- A scalar of a listed base type is there to be viewed. -/
theorem Admits.exists_view {α : Type} {types : List BaseType} (view : Scalar → Option α)
    (admits : Admits ⟨[.single], types⟩ operand) (notNull : operand.isNull = false)
    (listed : types ≠ []) (viewed : ∀ scalar, scalar.baseType ∈ types → (view scalar).isSome) :
    ∃ result, operand.single?.bind view = some result := by
  obtain ⟨scalar, rfl⟩ := admits.exists_single rfl notNull
  obtain ⟨baseType, member, declared⟩ := admits.baseType_mem listed notNull
  obtain rfl : scalar.baseType = baseType := Option.some.inj declared
  exact Option.isSome_iff_exists.mp (viewed scalar member)

end Accepts

theorem Scalar.isSome_number? {scalar : Scalar} (typed : scalar.baseType ∈ Accepts.numeric) :
    scalar.number?.isSome := by
  cases scalar <;> simp_all [Accepts.numeric, baseType, number?]

theorem Scalar.isSome_string? {scalar : Scalar} (typed : scalar.baseType ∈ [BaseType.string]) :
    scalar.string?.isSome := by
  cases scalar <;> simp_all [baseType, string?]

theorem Scalar.isSome_duration? {scalar : Scalar}
    (typed : scalar.baseType ∈ [BaseType.duration]) : scalar.duration?.isSome := by
  cases scalar <;> simp_all [baseType, duration?]

theorem Scalar.isSome_integer? {scalar : Scalar} (typed : scalar.baseType ∈ [BaseType.integer]) :
    scalar.integer?.isSome := by
  cases scalar <;> simp_all [baseType, integer?]

/-! ## Functions of operands -/

namespace Operator

open Signature

variable {α β : Type} {operator : Operator} {operands : List Value}

theorem covered_unary {view : Value → Option α} {run : α → Evaluated Value} {operand : Value}
    (found : ∃ viewed, view operand = some viewed)
    (covered : ∀ viewed, view operand = some viewed → Covered (run viewed)) :
    Covered (operator.unary view run [operand]) := by
  obtain ⟨viewed, found⟩ := found
  simp only [unary, found]
  exact covered viewed found

theorem covered_binary {leftView : Value → Option α} {rightView : Value → Option β}
    {run : α → β → Evaluated Value} {left right : Value}
    (leftFound : ∃ viewed, leftView left = some viewed)
    (rightFound : ∃ viewed, rightView right = some viewed)
    (covered : ∀ a b, rightView right = some b → Covered (run a b)) :
    Covered (operator.binary leftView rightView run [left, right]) := by
  obtain ⟨a, leftFound⟩ := leftFound
  obtain ⟨b, rightFound⟩ := rightFound
  simp only [binary, leftFound, rightFound]
  exact covered a b rightFound

/-- One operand that is viewed as a scalar of some base type. -/
theorem covered_scalar {types : List BaseType} (view : Scalar → Option α)
    {run : α → Evaluated Value} (admits : (exactly 1 [⟨[.single], types⟩]).Admits operands)
    (notNull : ∀ operand ∈ operands, operand.isNull = false) (listed : types ≠ [])
    (viewed : ∀ scalar, scalar.baseType ∈ types → (view scalar).isSome)
    (covered : ∀ viewed, Covered (run viewed)) :
    Covered (operator.unary (fun operand => operand.single?.bind view) run operands) := by
  obtain ⟨operand, rfl, admitted⟩ := admits.exists_one rfl rfl rfl
  exact covered_unary (admitted.exists_view view (notNull operand (by simp)) listed viewed)
    fun scalar _ => covered scalar

/-- Two operands that are viewed as scalars of one base type. -/
theorem covered_scalars {types : List BaseType} (view : Scalar → Option α)
    {run : α → α → Evaluated Value} (admits : (exactly 2 [⟨[.single], types⟩]).Admits operands)
    (notNull : ∀ operand ∈ operands, operand.isNull = false) (listed : types ≠ [])
    (viewed : ∀ scalar, scalar.baseType ∈ types → (view scalar).isSome)
    (covered : ∀ a b, Covered (run a b)) :
    Covered (operator.binary (fun operand => operand.single?.bind view)
      (fun operand => operand.single?.bind view) run operands) := by
  obtain ⟨a, b, rfl, admittedA, admittedB⟩ := admits.exists_two rfl rfl rfl rfl
  exact covered_binary (admittedA.exists_view view (notNull a (by simp)) listed viewed)
    (admittedB.exists_view view (notNull b (by simp)) listed viewed) fun a b _ => covered a b

theorem covered_numeric {onIntegers : List Int64 → Evaluated Value}
    {onFloats : List Float → Evaluated Value}
    (numbers : ∀ operand ∈ operands, (Value.number? operand).isSome)
    (coveredIntegers : ∀ integers, integers.length = operands.length →
      Covered (onIntegers integers))
    (coveredFloats : ∀ floats, floats.length = operands.length → Covered (onFloats floats)) :
    Covered (operator.numeric onIntegers onFloats operands) := by
  unfold numeric
  split
  next integers found =>
    exact coveredIntegers integers (mapM_eq_some_iff.mp found).length_eq.symm
  next =>
    obtain ⟨floats, found⟩ := Option.isSome_iff_exists.mp (isSome_mapM_iff.mpr numbers)
    rw [found]
    exact coveredFloats floats (mapM_eq_some_iff.mp found).length_eq.symm

end Operator

/-! ## Operators -/

theorem Collection.covered_delete {scalar : Scalar} {operand : Value}
    (container : ∃ container, operand.container? = some container) :
    Covered (Collection.delete scalar operand) := by
  obtain ⟨container, found⟩ := container
  refine covered_ite (fun _ => ?_) fun _ => covered_of_error nofun
  cases operand with
  | multiple | ordered => exact covered_ok _
  | null | single | record => cases found

theorem Accepts.Admits.exists_container {accepts : Accepts} {operand : Value}
    (admits : accepts.Admits operand) (listed : accepts.cardinalities ⊆ containers)
    (notNull : operand.isNull = false) : ∃ container, operand.container? = some container := by
  cases operand with
  | null => cases notNull
  | multiple container | ordered container => exact ⟨container, rfl⟩
  | single scalar => exact absurd (listed (admits .single rfl).1) (by decide)
  | record fields => exact absurd (listed (admits .record rfl).1) (by decide)

theorem Accepts.Admits.exists_record {types : List BaseType} {operand : Value}
    (admits : Admits ⟨[.record], types⟩ operand) (notNull : operand.isNull = false) :
    ∃ fields, operand.record? = some fields := by
  cases operand with
  | null => cases notNull
  | record fields => exact ⟨fields, rfl⟩
  | single scalar => exact absurd (List.mem_singleton.mp (admits .single rfl).1) (by decide)
  | multiple container =>
      exact absurd (List.mem_singleton.mp (admits .multiple rfl).1) (by decide)
  | ordered container =>
      exact absurd (List.mem_singleton.mp (admits .ordered rfl).1) (by decide)

theorem Accepts.Admits.exists_single? {types : List BaseType} {operand : Value}
    (admits : Admits ⟨[.single], types⟩ operand) (notNull : operand.isNull = false) :
    ∃ scalar, operand.single? = some scalar := by
  obtain ⟨scalar, rfl⟩ := admits.exists_single rfl notNull
  exact ⟨scalar, rfl⟩

namespace Operator

open Signature

variable {operator : Operator} {operands : List Value}

theorem covered_difference {operands : List Value} (two : operands.length = 2)
    (numbers : ∀ operand ∈ operands, (Value.number? operand).isSome) :
    Covered (operator.difference operands) := by
  refine covered_numeric numbers (fun integers length => ?_) (fun floats length => ?_)
  · obtain ⟨a, b, rfl⟩ := List.length_eq_two.mp (length.trans two)
    exact Value.ownErrors_ofInteger?.covered
  · obtain ⟨a, b, rfl⟩ := List.length_eq_two.mp (length.trans two)
    exact covered_ok _

theorem covered_applyFunction {function : MathFunction} {scalar : Scalar}
    (number : scalar.number?.isSome) : Covered (operator.applyFunction function scalar) := by
  unfold applyFunction
  split
  next => exact covered_ok _
  next =>
    obtain ⟨x, found⟩ := Option.isSome_iff_exists.mp number
    rw [found]
    exact covered_ok _

theorem isSome_number? {accepted : Signature}
    (one : accepted.operands = [⟨[.single], Accepts.numeric⟩])
    (admits : accepted.Admits operands)
    (notNull : ∀ operand ∈ operands, operand.isNull = false) :
    ∀ operand ∈ operands, (Value.number? operand).isSome := by
  intro operand member
  obtain ⟨x, found⟩ := (admits.all one operand member).exists_view Scalar.number?
    (notNull operand member) (by decide) fun _ => Scalar.isSome_number?
  exact Option.isSome_iff_exists.mpr ⟨x, found⟩

theorem compute_math {function : MathFunction} {store : Store} {limit : Nat}
    (one : function ≠ .atan2) :
    (math function).compute store limit operands =
      (math function).unary Value.single? ((math function).applyFunction function) operands := by
  cases function <;> first | rfl | exact absurd rfl one

theorem covered_math {function : MathFunction} {store : Store} {limit : Nat}
    (admits : (math function).signature.Admits operands)
    (notNull : ∀ operand ∈ operands, operand.isNull = false) :
    Covered ((math function).compute store limit operands) := by
  by_cases two : function = .atan2
  · rw [two] at admits ⊢
    exact covered_scalars Scalar.number? admits notNull (by decide)
      (fun _ => Scalar.isSome_number?) fun _ _ => covered_ok _
  · have one : function.arity = 1 := by
      cases function <;> first | rfl | exact absurd rfl two
    obtain ⟨operand, rfl, admitted⟩ := admits.exists_one one (congrArg some one) rfl
    have number := isSome_number? rfl admits notNull operand (by simp)
    rw [compute_math two]
    refine covered_unary (admitted.exists_single? (notNull operand (by simp)))
      fun scalar found => covered_applyFunction ?_
    rwa [Value.number?, found] at number

/-- Whatever operands pass the signature of an operator, it finds what it reads of them. -/
theorem covered_compute {store : Store} {limit : Nat} (different : operator ≠ .random)
    (admits : operator.signature.Admits operands)
    (notNull : operator.signature.propagatesNull = true →
      ∀ operand ∈ operands, operand.isNull = false) :
    Covered (operator.compute store limit operands) := by
  unfold compute
  cases operator with
  | and | or | min | max => exact covered_ok _
  | not =>
      obtain ⟨operand, rfl, _⟩ := admits.exists_one rfl rfl rfl
      exact covered_unary ⟨_, rfl⟩ fun _ _ => covered_ok _
  | anyN least most =>
      exact covered_bind least.ownErrors_resolve.covered fun _ _ =>
        covered_bind most.ownErrors_resolve.covered fun _ _ => covered_ok _
  | identical =>
      obtain ⟨a, b, rfl, _⟩ := admits.exists_two rfl rfl rfl rfl
      exact covered_binary ⟨_, rfl⟩ ⟨_, rfl⟩ fun _ _ _ => Comparison.ownErrors_identical.covered
  | stringMatch | substring =>
      exact covered_scalars Scalar.string? admits (notNull rfl) (by decide)
        (fun _ => Scalar.isSome_string?) fun _ _ => covered_ok _
  | patternMatch pattern =>
      refine covered_bind pattern.ownErrors_resolve.covered fun _ _ => ?_
      exact covered_scalar Scalar.string? admits (notNull rfl) (by decide)
        (fun _ => Scalar.isSome_string?) fun _ => ownErrors_matchPattern.covered
  | equal equality =>
      exact covered_scalars Scalar.number? admits (notNull rfl) (by decide)
        (fun _ => Scalar.isSome_number?) fun _ _ => Comparison.ownErrors_equal.covered
  | equalRounded mode figures =>
      refine covered_bind figures.ownErrors_resolve.covered fun _ _ => ?_
      exact covered_scalars Scalar.number? admits (notNull rfl) (by decide)
        (fun _ => Scalar.isSome_number?) fun _ _ => Comparison.ownErrors_equalRounded.covered
  | compare | divide | power =>
      exact covered_scalars Scalar.number? admits (notNull rfl) (by decide)
        (fun _ => Scalar.isSome_number?) fun _ _ => covered_ok _
  | compareDurations =>
      exact covered_scalars Scalar.duration? admits (notNull rfl) (by decide)
        (fun _ => Scalar.isSome_duration?) fun _ _ => covered_ok _
  | inside =>
      obtain ⟨operand, rfl, _⟩ := admits.exists_one rfl rfl rfl
      exact covered_unary ⟨_, rfl⟩ fun _ _ => covered_ok _
  | sum | product =>
      exact covered_numeric (isSome_number? rfl admits (notNull rfl))
        (fun _ _ => Arithmetic.ownErrors_foldIntegers.covered) fun _ _ => covered_ok _
  | subtract =>
      obtain ⟨a, b, rfl, _⟩ := admits.exists_two rfl rfl rfl rfl
      exact covered_difference rfl (isSome_number? rfl admits (notNull rfl))
  | integerDivide =>
      exact covered_scalars Scalar.integer? admits (notNull rfl) (by decide)
        (fun _ => Scalar.isSome_integer?) fun _ _ => Arithmetic.ownErrors_integerDivide.covered
  | integerModulus =>
      exact covered_scalars Scalar.integer? admits (notNull rfl) (by decide)
        (fun _ => Scalar.isSome_integer?) fun _ _ => Arithmetic.ownErrors_integerModulus.covered
  | truncate | round =>
      exact covered_scalar Scalar.number? admits (notNull rfl) (by decide)
        (fun _ => Scalar.isSome_number?) fun _ => covered_ok _
  | roundTo mode figures =>
      refine covered_bind figures.ownErrors_resolve.covered fun _ _ => ?_
      exact covered_scalar Scalar.number? admits (notNull rfl) (by decide)
        (fun _ => Scalar.isSome_number?) fun _ => Arithmetic.ownErrors_roundTo.covered
  | integerToFloat =>
      exact covered_scalar Scalar.integer? admits (notNull rfl) (by decide)
        (fun _ => Scalar.isSome_integer?) fun _ => covered_ok _
  | gcd | lcm => exact Value.ownErrors_ofInteger?.covered
  | math function => exact covered_math admits (notNull rfl)
  | stats function =>
      obtain ⟨operand, rfl, admitted⟩ := admits.exists_one rfl rfl rfl
      exact covered_unary
        (admitted.exists_container (fun _ listed => listed) (notNull rfl operand (by simp)))
        fun _ _ => covered_ok _
  | multiple | ordered => exact Collection.ownErrors_collect.covered
  | containerSize | isNull =>
      obtain ⟨operand, rfl, _⟩ := admits.exists_one rfl rfl rfl
      exact covered_unary ⟨_, rfl⟩ fun _ _ => covered_ok _
  | index position =>
      refine covered_bind position.ownErrors_resolve.covered fun _ _ => ?_
      obtain ⟨operand, rfl, admitted⟩ := admits.exists_one rfl rfl rfl
      exact covered_unary (admitted.exists_container (by decide) (notNull rfl operand (by simp)))
        fun _ _ => Collection.ownErrors_index.covered
  | fieldValue field =>
      obtain ⟨operand, rfl, admitted⟩ := admits.exists_one rfl rfl rfl
      exact covered_unary (admitted.exists_record (notNull rfl operand (by simp)))
        fun _ _ => covered_ok _
  | random => exact absurd rfl different
  | member =>
      obtain ⟨a, b, rfl, admittedA, _⟩ := admits.exists_two rfl rfl rfl rfl
      exact covered_binary (admittedA.exists_single? (notNull rfl a (by simp))) ⟨_, rfl⟩
        fun _ _ _ => Collection.ownErrors_member.covered
  | delete =>
      obtain ⟨a, b, rfl, admittedA, admittedB⟩ := admits.exists_two rfl rfl rfl rfl
      have container := admittedB.exists_container (fun _ listed => listed)
        (notNull rfl b (by simp))
      refine covered_binary (admittedA.exists_single? (notNull rfl a (by simp))) ⟨_, rfl⟩
        fun _ _ same => ?_
      cases same
      exact Collection.covered_delete container
  | contains =>
      obtain ⟨a, b, rfl, _⟩ := admits.exists_two rfl rfl rfl rfl
      exact covered_binary ⟨_, rfl⟩ ⟨_, rfl⟩ fun _ _ _ => Collection.ownErrors_contains.covered
  | replicate count =>
      exact covered_bind count.ownErrors_resolve.covered fun _ _ =>
        Collection.ownErrors_replicate.covered

end Operator

/-! ## Custom operators -/

namespace Extension

variable {name : String} {operands : List Value}

/-- The custom operator finds the operands that it reads. -/
def Covered (extension : Extension) : Prop :=
  ∀ operands markup, Evaluated.Covered (extension operands markup)

theorem length_of_expectCount {count : Nat} {counted : Unit}
    (success : expectCount name count operands = .ok counted) : operands.length = count := by
  unfold expectCount at success
  split at success
  next => cases success
  next enough =>
    split at success
    next => cases success
    next few => omega

theorem covered_implode : Covered implode := by
  intro operands markup
  refine covered_bind ownErrors_expectCount.covered fun _ counted => ?_
  obtain ⟨container, delimiter, rfl⟩ := List.length_eq_two.mp (length_of_expectCount counted)
  refine covered_ite (fun _ => covered_ok _) fun _ => ?_
  exact covered_bind ownErrors_expectStrings.covered fun _ _ =>
    covered_bind ownErrors_expectString.covered fun _ _ => covered_ok _

theorem covered_explode : Covered explode := by
  intro operands markup
  refine covered_bind ownErrors_expectCount.covered fun _ counted => ?_
  obtain ⟨delimiter, text, rfl⟩ := List.length_eq_two.mp (length_of_expectCount counted)
  refine covered_ite (fun _ => covered_ok _) fun _ => ?_
  exact covered_bind ownErrors_expectString.covered fun _ _ =>
    covered_bind ownErrors_expectString.covered fun _ _ => covered_ok _

theorem covered_separate {wrap : Container → Value} : Covered (separate name wrap) := by
  intro operands markup
  refine covered_bind ownErrors_expectCount.covered fun _ counted => ?_
  obtain ⟨text, rfl⟩ := List.length_eq_one_iff.mp (length_of_expectCount counted)
  refine covered_ite (fun _ => covered_ok _) fun _ => ?_
  exact covered_bind ownErrors_expectString.covered fun _ _ => covered_ok _

end Extension

namespace Registry

variable {registry : Registry}

/-- An operator that is found stands in the registry under some name. -/
theorem exists_name_of_resolve? {className definition : Option String} {extension : Extension}
    (found : registry.resolve? className definition = some extension) :
    ∃ name, registry.get? name = some extension := by
  unfold resolve? at found
  split at found
  next byClass =>
    cases found
    obtain ⟨name, _, found⟩ := Option.bind_eq_some_iff.mp byClass
    unfold ofClass? at found
    split at found
    next exactName =>
      cases found
      exact ⟨name, exactName⟩
    next =>
      obtain ⟨short, _, found⟩ := Option.bind_eq_some_iff.mp found
      exact ⟨short, found⟩
  next =>
    obtain ⟨name, _, found⟩ := Option.bind_eq_some_iff.mp found
    exact ⟨name, found⟩

theorem forall_insert {property : Extension → Prop} {name : String} {added : Extension}
    (new : property added)
    (old : ∀ wanted other, registry.get? wanted = some other → property other) :
    ∀ wanted other, (Dictionary.insert name added registry).get? wanted = some other →
      property other := by
  intro wanted other lookedUp
  rw [Dictionary.get?_insert] at lookedUp
  split at lookedUp
  next =>
    cases lookedUp
    exact new
  next => exact old wanted other lookedUp

/-- What holds of the operators that join and split texts holds of all that the standard
registry has. -/
theorem forall_standard {property : Extension → Prop} (implode : property .implode)
    (explode : property .explode) (separate : ∀ name wrap, property (.separate name wrap)) :
    ∀ name extension, standard.get? name = some extension → property extension := by
  have nothing : ∀ name extension, (Dictionary.empty : Registry).get? name = some extension →
      property extension := nofun
  exact forall_insert (separate _ _) (forall_insert (separate _ _)
    (forall_insert explode (forall_insert implode nothing)))

/-- Every operator of the registry finds its operands. -/
def Covered (registry : Registry) : Prop :=
  ∀ name extension, registry.get? name = some extension → extension.Covered

theorem Covered.resolve (covered : registry.Covered) {className definition : Option String}
    {extension : Extension} (found : registry.resolve? className definition = some extension) :
    extension.Covered := by
  obtain ⟨name, named⟩ := exists_name_of_resolve? found
  exact covered name extension named

theorem covered_standard : standard.Covered :=
  forall_standard Extension.covered_implode Extension.covered_explode
    fun _ _ => Extension.covered_separate

end Registry

end Assessment
