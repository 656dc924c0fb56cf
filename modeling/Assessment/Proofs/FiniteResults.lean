import Assessment.Proofs.FigureRounding
import Assessment.Proofs.ResultType

/-!
# Results that are real numbers

Arithmetic gives integers, finite floats and NULL: where the result is infinite or not a
number, it is NULL.  `roundTo` alone has no such check.  The greatest doubles, rounded to few
significant figures, leave the range there and become infinity.
-/

namespace Assessment

namespace Value

variable {value : Value}

/-- Neither infinite nor NaN: an integer, a finite float or NULL. -/
def IsReal (value : Value) : Prop :=
  value = .null ∨ (∃ i, value = .integer i) ∨ ∃ x, x.isFinite = true ∧ value = .float x

theorem isReal_null : IsReal .null :=
  .inl rfl

theorem isReal_integer (i : Int64) : (integer i).IsReal :=
  .inr (.inl ⟨i, rfl⟩)

theorem isReal_float_iff {x : Float} : (float x).IsReal ↔ x.isFinite = true := by
  constructor
  · rintro (isNull | ⟨i, isInteger⟩ | ⟨y, finite, same⟩)
    · cases isNull
    · cases isInteger
    · cases same
      exact finite
  · exact fun finite => .inr (.inr ⟨x, finite, rfl⟩)

theorem isReal_ofFinite (x : Float) : (ofFinite x).IsReal := by
  unfold ofFinite
  split
  next finite => exact isReal_float_iff.mpr finite
  next => exact isReal_null

theorem Is.isReal (is : value.Is .integer) : value.IsReal := by
  obtain ⟨scalar, rfl, typed⟩ := is
  cases scalar <;> cases typed
  exact isReal_integer _

theorem IsOrNull.isReal (is : value.IsOrNull .integer) : value.IsReal := by
  rcases is with rfl | is
  · exact isReal_null
  · exact is.isReal

end Value

open Value

/-! ## Arithmetic -/

namespace Arithmetic

theorem isReal_divide (a b : Float) : (divide a b).IsReal := by
  unfold divide
  split
  next => exact isReal_null
  next => exact isReal_ofFinite _

theorem isReal_leastInteger (integers : List Int64) : (leastInteger integers).IsReal := by
  cases integers with
  | nil => exact isReal_null
  | cons i rest => exact isReal_integer _

theorem isReal_greatestInteger (integers : List Int64) : (greatestInteger integers).IsReal := by
  cases integers with
  | nil => exact isReal_null
  | cons i rest => exact isReal_integer _

theorem isReal_apply (function : MathFunction) (x : Float) : (apply function x).IsReal := by
  cases function with
  | atan2 => exact isReal_null
  | signum => exact (isOrNull_signum x).isReal
  | floor | ceil => exact (isOrNull_whole _ x).isReal
  | _ => exact isReal_ofFinite _

theorem isReal_statistic (function : StatsFunction) (values : List Float) :
    (statistic function values).IsReal := by
  unfold statistic
  dsimp only
  split
  next => exact isReal_null
  next =>
    cases function with
    | mean | popVariance | popSD => exact isReal_ofFinite _
    | sampleVariance | sampleSD =>
        dsimp only
        split
        next => exact isReal_null
        next => exact isReal_ofFinite _

/-- The number is rounded, or it is not finite and gives NULL. -/
theorem roundTo_eq_ok {mode : RoundingMode} {figures : Int64} {x : Float} {value : Value}
    (success : roundTo mode figures x = .ok value) :
    mode.minimum ≤ figures.toInt ∧
      ((Real64.roundTo? mode figures.toInt.toNat x = none ∧ value = .null) ∨
        ∃ y, Real64.roundTo? mode figures.toInt.toNat x = some y ∧ value = .float y) := by
  obtain ⟨rounded, run, rest⟩ := bind_eq_ok_iff.mp success
  unfold roundNumber at run
  split at run
  next => cases run
  next enough =>
    rw [Except.ok.injEq] at run
    refine ⟨not_lt.mp enough, ?_⟩
    cases rounded with
    | none =>
        cases rest
        exact .inl ⟨run, rfl⟩
    | some y =>
        cases rest
        exact .inr ⟨y, run, rfl⟩

end Arithmetic

/-! ## Operators -/

namespace Operator

variable {operator : Operator} {operands : List Value} {value : Value} {store : Store}
  {limit : Nat}

/-- The operators whose results are numbers that need not be whole. -/
def IsArithmetic : Operator → Prop
  | .sum | .product | .subtract | .divide | .power | .roundTo _ _ | .integerToFloat | .min | .max
  | .math _ | .stats _ => True
  | _ => False

/-- A number is rounded to so few significant figures that it leaves the range of doubles. -/
def Overshoots (store : Store) (operator : Operator) (operands : List Value) : Prop :=
  ∃ figures n operand x, operator = .roundTo .significantFigures figures ∧
    figures.resolveInteger operator.name "figures" store = .ok n ∧
    operands = [operand] ∧ operand.number? = some x ∧ Real64.Overshoots n.toInt.toNat x

theorem isReal_of_numeric {onIntegers : List Int64 → Evaluated Value}
    {onFloats : List Float → Evaluated Value}
    (isInteger : ∀ integers, onIntegers integers = .ok value → value.Is .integer)
    (isFloat : ∀ floats, onFloats floats = .ok value → value.IsReal)
    (success : operator.numeric onIntegers onFloats operands = .ok value) : value.IsReal := by
  rcases numeric_eq_ok success with ⟨integers, _, run⟩ | ⟨_, floats, run⟩
  · exact (isInteger integers run).isReal
  · exact isFloat floats run

theorem isReal_overNumbers {onIntegers : List Int64 → Value} {onFloats : List Float → Value}
    (isInteger : ∀ integers, (onIntegers integers).IsReal)
    (isFloat : ∀ floats, (onFloats floats).IsReal) :
    (overNumbers onIntegers onFloats operands).IsReal := by
  unfold overNumbers
  dsimp only
  split
  next integers _ => exact isInteger integers
  next => exact isFloat _

theorem isReal_of_difference (success : operator.difference operands = .ok value) :
    value.IsReal := by
  refine isReal_of_numeric (fun integers run => ?_) (fun floats run => ?_) success
  · split at run
    next => exact is_of_ofInteger? run
    next => cases run
  · split at run
    next =>
      cases run
      exact isReal_ofFinite _
    next => cases run

theorem isReal_of_applyFunction {function : MathFunction} {scalar : Scalar}
    (success : operator.applyFunction function scalar = .ok value) : value.IsReal := by
  unfold applyFunction at success
  split at success
  next i =>
    cases success
    exact (Arithmetic.isOrNull_absInteger i).isReal
  next =>
    split at success
    next x _ =>
      cases success
      exact Arithmetic.isReal_apply function x
    next => cases success

theorem isReal_of_math {function : MathFunction}
    (success : (math function).compute store limit operands = .ok value) : value.IsReal := by
  unfold compute at success
  cases function with
  | atan2 => exact binary_gives (fun _ _ => isReal_ofFinite _) success
  | _ =>
      obtain ⟨_, scalar, rfl, _, run⟩ := unary_eq_ok success
      exact isReal_of_applyFunction run

theorem overshoots_roundTo_iff {mode : RoundingMode} {figures : Attribute Int64} {n : Int64}
    {operand : Value} {x : Float}
    (resolved : figures.resolveInteger (roundTo mode figures).name "figures" store = .ok n)
    (number : operand.number? = some x) :
    (roundTo mode figures).Overshoots store [operand] ↔
      mode = .significantFigures ∧ Real64.Overshoots n.toInt.toNat x := by
  constructor
  · rintro ⟨figures', n', operand', x', same, resolved', single, number', overshoots⟩
    cases same
    cases single
    rw [resolved, Except.ok.injEq] at resolved'
    rw [number, Option.some_inj] at number'
    subst resolved' number'
    exact ⟨rfl, overshoots⟩
  · rintro ⟨rfl, overshoots⟩
    exact ⟨figures, n, operand, x, rfl, resolved, rfl, number, overshoots⟩

/-- The result of `roundTo` is infinite just where the rounding overshoots. -/
theorem roundTo_cases {mode : RoundingMode} {figures : Attribute Int64}
    (success : (roundTo mode figures).compute store limit operands = .ok value) :
    (value = .null ∧ ¬(roundTo mode figures).Overshoots store operands) ∨
      ∃ y, value = .float y ∧
        (y.isFinite = true ∨ y = Real64.infinity ∨ y = -Real64.infinity) ∧
        (y.isFinite = true ↔ ¬(roundTo mode figures).Overshoots store operands) := by
  obtain ⟨n, resolved, rest⟩ := bind_eq_ok_iff.mp success
  obtain ⟨operand, x, rfl, number, run⟩ := unary_eq_ok rest
  rw [overshoots_roundTo_iff resolved number]
  obtain ⟨-, ⟨missing, rfl⟩ | ⟨y, rounded, rfl⟩⟩ := Arithmetic.roundTo_eq_ok run
  · have noParts : Dyadic.ofFloat? x = none := Option.map_eq_none_iff.mp missing
    refine .inl ⟨rfl, ?_⟩
    rintro ⟨-, parts, apart, -⟩
    rw [noParts] at apart
    cases apart
  · exact .inr ⟨y, rfl, Real64.roundTo?_cases rounded, Real64.isFinite_roundTo?_iff rounded⟩

theorem isReal_of_compute (arithmetic : operator.IsArithmetic)
    (inRange : ¬operator.Overshoots store operands)
    (success : operator.compute store limit operands = .ok value) : value.IsReal := by
  cases operator with
  | math function => exact isReal_of_math success
  | roundTo mode figures =>
      rcases roundTo_cases success with ⟨rfl, -⟩ | ⟨y, rfl, -, finite⟩
      · exact isReal_null
      · exact isReal_float_iff.mpr (finite.mpr inRange)
  | sum | product =>
      refine isReal_of_numeric (fun _ run => Arithmetic.is_of_foldIntegers run)
        (fun _ run => ?_) success
      cases run
      exact isReal_ofFinite _
  | subtract => exact isReal_of_difference success
  | divide => exact binary_gives Arithmetic.isReal_divide success
  | power => exact binary_gives (fun _ _ => isReal_ofFinite _) success
  | integerToFloat =>
      refine unary_gives (fun i => ?_) success
      exact isReal_float_iff.mpr (Real64.holds_ofInteger i).isFinite
  | min =>
      cases success
      exact isReal_overNumbers Arithmetic.isReal_leastInteger fun _ => isReal_ofFinite _
  | max =>
      cases success
      exact isReal_overNumbers Arithmetic.isReal_greatestInteger fun _ => isReal_ofFinite _
  | stats function => exact unary_gives (fun _ => Arithmetic.isReal_statistic function _) success
  | _ => cases arithmetic

theorem infinite_of_compute (overshoots : operator.Overshoots store operands)
    (success : operator.compute store limit operands = .ok value) :
    value = .float Real64.infinity ∨ value = .float (-Real64.infinity) := by
  obtain ⟨figures, n, operand, x, rfl, -⟩ := id overshoots
  rcases roundTo_cases success with ⟨-, inRange⟩ | ⟨y, rfl, finite | infinite, inRange⟩
  · exact absurd overshoots inRange
  · exact absurd overshoots (inRange.mp finite)
  · exact infinite.imp (congrArg Value.float) (congrArg Value.float)

/-- An operator that does not draw gives NULL for an operand that is NULL, or computes. -/
theorem eq_null_or_compute {context : Context} {source : RandomSource}
    (drawless : operator ≠ .random)
    (success : ((operator.apply context operands).run.run source).1 = .ok value) :
    (value = .null ∧ ∃ operand ∈ operands, operand.isNull = true) ∨
      operator.compute context.store context.settings.maxContainerSize operands = .ok value := by
  rw [apply_eq_of_ne_random drawless, run_run_bind] at success
  split at success
  next =>
    split at success
    next null =>
      cases success
      rw [Bool.and_eq_true, List.any_eq_true] at null
      exact .inl ⟨rfl, null.2⟩
    next => exact .inr success
  next => cases success

theorem isNull_eq_false_of_number? {operand : Value} {x : Float}
    (number : operand.number? = some x) : operand.isNull = false := by
  cases operand with
  | single scalar => cases scalar <;> first | rfl | cases number
  | _ => cases number

variable {context : Context} {source : RandomSource}

/-- Whatever arithmetic gives, for all operands and attributes, is NULL, an integer or a finite
float, except where `roundTo` rounds a finite number to so few significant figures that the
decimal is half a unit above the greatest double, or more.  Then the result is infinite.  This
takes at most sixteen figures and a number of about the size of the greatest double. -/
theorem apply_arithmetic (arithmetic : operator.IsArithmetic)
    (success : ((operator.apply context operands).run.run source).1 = .ok value) :
    (¬operator.Overshoots context.store operands → value.IsReal) ∧
      (operator.Overshoots context.store operands →
        (value = .float Real64.infinity ∨ value = .float (-Real64.infinity)) ∧
          ∃ figures n x q, operator = .roundTo .significantFigures figures ∧
            figures.resolveInteger operator.name "figures" context.store = .ok n ∧
            1 ≤ n.toInt ∧ n.toInt ≤ 16 ∧ operands.map Value.number? = [some x] ∧
            Real64.Holds x q ∧ 3 / 2 * 10 ^ 308 ≤ |q|) := by
  have drawless : operator ≠ .random := by
    rintro rfl
    exact arithmetic
  have ended := eq_null_or_compute drawless success
  constructor
  · intro inRange
    rcases ended with ⟨rfl, -⟩ | computed
    · exact isReal_null
    · exact isReal_of_compute arithmetic inRange computed
  · intro overshoots
    obtain ⟨figures, n, operand, x, rfl, resolved, rfl, number, beyond⟩ := id overshoots
    have filled : ¬∃ other ∈ [operand], other.isNull = true := by
      simp [isNull_eq_false_of_number? number]
    have computed := ended.resolve_left fun null => filled null.2
    refine ⟨infinite_of_compute overshoots computed, figures, n, x, ?_⟩
    obtain ⟨few, q, holds, great⟩ := beyond.bounds
    have enough : 1 ≤ n.toInt := by
      obtain ⟨n', resolved', rest⟩ := bind_eq_ok_iff.mp computed
      obtain ⟨_, _, _, _, run⟩ := unary_eq_ok rest
      rw [resolved, Except.ok.injEq] at resolved'
      rw [resolved']
      exact (Arithmetic.roundTo_eq_ok run).1
    exact ⟨q, rfl, resolved, enough, by omega, by simp [number], holds, great⟩

/-- Sixteen digits of the greatest double are enough for infinity, and six are not. -/
theorem apply_arithmetic_greatest :
    let context : Context := ⟨⟨.default, .standard⟩, ⟨[]⟩⟩
    let operands : List Value := [.float 1.7976931348623157e308]
    let sixteen := Operator.roundTo .significantFigures (.literal 16)
    let six := Operator.roundTo .significantFigures (.literal 6)
    sixteen.IsArithmetic ∧ sixteen.Overshoots context.store operands ∧
      ((sixteen.apply context operands).run.run (RandomSource.ofSeed 0)).1 =
        .ok (.float Real64.infinity) ∧
      six.IsArithmetic ∧
      ((six.apply context operands).run.run (RandomSource.ofSeed 0)).1 =
        .ok (.float 1.79769e308) ∧
      (Value.float 1.79769e308).IsReal := by
  intro context operands sixteen six
  have arithmetic : sixteen.IsArithmetic := trivial
  have infinite : ((sixteen.apply context operands).run.run (RandomSource.ofSeed 0)).1 =
      .ok (.float Real64.infinity) := by
    decide +kernel
  have overshoots : sixteen.Overshoots context.store operands := by
    by_contra inRange
    have real := (apply_arithmetic arithmetic infinite).1 inRange
    rw [isReal_float_iff, Real64.infinity_not_finite] at real
    cases real
  have arithmetic' : six.IsArithmetic := trivial
  have finite : ((six.apply context operands).run.run (RandomSource.ofSeed 0)).1 =
      .ok (.float 1.79769e308) := by
    decide +kernel
  have inRange : ¬six.Overshoots context.store operands := by
    intro beyond
    rcases ((apply_arithmetic arithmetic' finite).2 beyond).1 with same | same
    · exact absurd same (by decide +kernel)
    · exact absurd same (by decide +kernel)
  exact ⟨arithmetic, overshoots, infinite, arithmetic', finite,
    (apply_arithmetic arithmetic' finite).1 inRange⟩

/-- The greatest double, rounded to one figure. -/
theorem roundTo_infinite :
    let context : Context := ⟨⟨.default, .standard⟩, ⟨[]⟩⟩
    let operator := Operator.roundTo .significantFigures (.literal 1)
    ((operator.apply context [.float 1.7976931348623157e308]).run.run (RandomSource.ofSeed 0)).1 =
        .ok (.float Real64.infinity) ∧
      Real64.infinity.isFinite = false := by
  decide +kernel

end Operator

end Assessment
