import Assessment.Proofs.Coercion
import Assessment.Proofs.IntegerRounding

/-!
# Floats in integer variables

A float that is written to an integer variable loses its fraction, just as `truncate` drops
it.  Infinities and NaN have no integer, and the variable refuses them.  Beyond the range of
64 bits the two differ: `truncate` is NULL there, but the variable takes the end of the
range.
-/

namespace Assessment

open Evaluation (Gives)

namespace Real64

variable {q : ℚ}

/-- The integer that is left of a number without its fraction. -/
def integralPart (q : ℚ) : Int :=
  if 0 ≤ q then ⌊q⌋ else ⌈q⌉

theorem greatest_lt_integralPart_iff : Integer.greatest < integralPart q ↔ 2 ^ 63 ≤ q := by
  have beyond : Integer.greatest < ⌊q⌋ ↔ 2 ^ 63 ≤ q := by
    rw [← Int.add_one_le_iff, Int.le_floor]
    norm_num [Integer.greatest]
  unfold integralPart
  split
  next => exact beyond
  next negative =>
    have below : ⌈q⌉ ≤ 0 := Int.ceil_le.mpr (by push_cast; linarith)
    have notAbove : ¬(2 : ℚ) ^ 63 ≤ q := by linarith
    refine iff_of_false ?_ notAbove
    rw [Integer.greatest]
    omega

theorem integralPart_lt_least_iff : integralPart q < Integer.least ↔ q ≤ -2 ^ 63 - 1 := by
  have beyond : ⌈q⌉ < Integer.least ↔ q ≤ -2 ^ 63 - 1 := by
    rw [← Int.le_sub_one_iff, Int.ceil_le]
    norm_num [Integer.least]
  unfold integralPart
  split
  next positive =>
    have above : 0 ≤ ⌊q⌋ := Int.floor_nonneg.mpr positive
    have notBelow : ¬q ≤ -2 ^ 63 - 1 := by linarith
    refine iff_of_false ?_ notBelow
    rw [Integer.least]
    omega
  next => exact beyond

end Real64

open Real64 (Holds integralPart)

namespace Integer

variable {n : Int}

theorem clamp_of_holds (holds : Word.long.Holds n) : ofInt? n = some (clamp n) := by
  have inRange : least ≤ n ∧ n ≤ greatest := holds
  rw [ofInt?, if_pos (Word.fits_iff.mpr holds), clamp, min_eq_right inRange.2,
    max_eq_right inRange.1]

theorem clamp_of_greatest_lt (above : greatest < n) : clamp n = Int64.maxValue := by
  rw [clamp, min_eq_left above.le]
  rfl

theorem clamp_of_lt_least (below : n < least) : clamp n = Int64.minValue := by
  have small : min greatest n ≤ least := (min_le_right _ _).trans below.le
  rw [clamp, max_eq_left small]
  rfl

end Integer

variable {x : Float} {q : ℚ}

theorem Arithmetic.truncate_of_holds (holds : Holds x q) :
    truncate x = .ofBounded (integralPart q) :=
  whole_of_holds holds fun parts value => by rw [parts.truncate_eq, value, integralPart]

theorem Arithmetic.truncate_of_not_finite (notFinite : x.isFinite = false) :
    truncate x = .null := by
  rw [truncate, whole, Dyadic.ofFloat?_eq_none notFinite]
  rfl

theorem Operator.truncate_gives (context : Context) (x : Float) :
    Gives (Operator.truncate.apply context [.float x]) (.ok (Arithmetic.truncate x)) := by
  refine apply_gives context (by simp) ?_ (by simp [Value.float, Value.isNull])
  refine Signature.admits_exactly rfl ?_
  rintro _ (_ | ⟨_, ⟨⟩⟩) cardinality ⟨rfl⟩
  exact ⟨List.mem_singleton_self _, .inr ⟨.float, by decide, rfl⟩⟩

theorem Scalar.coerce?_float_of_holds (holds : Holds x q) :
    (Scalar.float x).coerce? .integer = some (.integer (Integer.clamp (integralPart q))) := by
  obtain ⟨parts, apart, value⟩ := holds.ofFloat?
  have truncated : parts.truncate = integralPart q := by
    rw [parts.truncate_eq, value, integralPart]
  rw [← truncated]
  simp [coerce?, baseType, apart]

theorem Scalar.coerce?_float_of_not_finite (notFinite : x.isFinite = false) :
    (Scalar.float x).coerce? .integer = none := by
  simp [coerce?, baseType, Dyadic.ofFloat?_eq_none notFinite]

namespace Variable

variable {v : Variable}

theorem coerce_float_of_holds (declared : v.type = .single .integer) (holds : Holds x q) :
    v.coerce (.float x) = .ok (.integer (Integer.clamp (integralPart q))) := by
  rw [coerce_eq_ok_iff, declared, Value.float, DeclaredType.coerce?,
    Scalar.coerce?_float_of_holds holds]
  rfl

theorem coerce_float_of_not_finite (declared : v.type = .single .integer)
    (notFinite : x.isFinite = false) :
    v.coerce (.float x) =
      .error (.incompatible v.identifier "single integer" "single float") := by
  have rejected : v.type.coerce? (.float x) = none := by
    rw [declared, Value.float, DeclaredType.coerce?, Scalar.coerce?_float_of_not_finite notFinite]
    rfl
  rw [coerce, rejected, declared]
  rfl

/-- For every float, an integer variable takes the integer that `truncate` gives, if it gives
one.  An infinity or NaN is refused, and `truncate` is NULL.  Every other float stands for a
number.  If the number without its fraction has at most 64 bits, `truncate` gives it, and
else `truncate` is NULL, but the variable takes the end of the range that is nearer. -/
theorem coerce_float_clamps (context : Context) (declared : v.type = .single .integer)
    (x : Float) :
    let truncated := Operator.truncate.apply context [.float x]
    (∀ i, Gives truncated (.ok (.integer i)) → v.coerce (.float x) = .ok (.integer i)) ∧
      (x.isFinite = false → Gives truncated (.ok .null) ∧
        v.coerce (.float x) =
          .error (.incompatible v.identifier "single integer" "single float")) ∧
      (x.isFinite = true ↔ ∃ q, Holds x q) ∧
      ∀ q, Holds x q →
        (-2 ^ 63 - 1 < q → q < 2 ^ 63 →
          ∃ i : Int64, i.toInt = integralPart q ∧ Gives truncated (.ok (.integer i))) ∧
        (2 ^ 63 ≤ q → Gives truncated (.ok .null) ∧
          v.coerce (.float x) = .ok (.integer Int64.maxValue)) ∧
        (q ≤ -2 ^ 63 - 1 → Gives truncated (.ok .null) ∧
          v.coerce (.float x) = .ok (.integer Int64.minValue)) := by
  intro truncated
  have gives := Operator.truncate_gives context x
  refine ⟨?_, ?_, ⟨Real64.exists_holds, fun ⟨_, holds⟩ => holds.isFinite⟩, ?_⟩
  · intro i given
    have result : Arithmetic.truncate x = .integer i := Except.ok.inj (gives.unique given)
    cases finite : x.isFinite with
    | false =>
        rw [Arithmetic.truncate_of_not_finite finite] at result
        cases result
    | true =>
        obtain ⟨q, holds⟩ := Real64.exists_holds finite
        rw [Arithmetic.truncate_of_holds holds, Value.ofBounded_eq_integer_iff] at result
        have clamped := Integer.clamp_of_holds (Word.long_holds i)
        rw [Integer.ofInt?_toInt, Option.some_inj] at clamped
        rw [coerce_float_of_holds declared holds, result, ← clamped]
  · intro notFinite
    rw [Arithmetic.truncate_of_not_finite notFinite] at gives
    exact ⟨gives, coerce_float_of_not_finite declared notFinite⟩
  · intro q holds
    have stored := coerce_float_of_holds declared holds
    rw [Arithmetic.truncate_of_holds holds] at gives
    have null (beyond : ¬Word.long.Holds (integralPart q)) : Gives truncated (.ok .null) := by
      rwa [Value.ofBounded_eq_null_iff.mpr beyond] at gives
    refine ⟨fun above below => ?_, fun above => ?_, fun below => ?_⟩
    · have inRange : Word.long.Holds (integralPart q) :=
        ⟨not_lt.mp (mt Real64.integralPart_lt_least_iff.mp (not_le.mpr above)),
          not_lt.mp (mt Real64.greatest_lt_integralPart_iff.mp (not_le.mpr below))⟩
      obtain ⟨i, exact⟩ := Word.exists_of_holds inRange
      rw [Value.ofBounded_eq_integer_iff.mpr exact.symm] at gives
      exact ⟨i, exact, gives⟩
    · have beyond := Real64.greatest_lt_integralPart_iff.mpr above
      rw [Integer.clamp_of_greatest_lt beyond] at stored
      exact ⟨null fun inRange => absurd beyond (not_lt.mpr inRange.2), stored⟩
    · have beyond := Real64.integralPart_lt_least_iff.mpr below
      rw [Integer.clamp_of_lt_least beyond] at stored
      exact ⟨null fun inRange => absurd beyond (not_lt.mpr inRange.1), stored⟩

/-- A fraction that is dropped, and an infinity that is refused. -/
theorem coerce_float_clamps_fraction :
    let context : Context := ⟨⟨.default, .standard⟩, ⟨[]⟩⟩
    let v : Variable :=
      ⟨"COUNT", .single .integer, .template ⟨false, false⟩, .null, .null⟩
    v.type = .single .integer ∧
      Gives (Operator.truncate.apply context [.float (-2.75)]) (.ok (.integer (-2))) ∧
      v.coerce (.float (-2.75)) = .ok (.integer (-2)) ∧
      Real64.infinity.isFinite = false ∧
      v.coerce (.float Real64.infinity) =
        .error (.incompatible "COUNT" "single integer" "single float") := by
  intro context v
  have truncated : Gives (Operator.truncate.apply context [.float (-2.75)])
      (.ok (.integer (-2))) := by
    have result : Arithmetic.truncate (-2.75) = .integer (-2) := by decide +kernel
    rw [← result]
    exact Operator.truncate_gives context _
  have infinite : Real64.infinity.isFinite = false := by decide +kernel
  have stored := (coerce_float_clamps context (v := v) rfl (-2.75)).1 _ truncated
  have refused := ((coerce_float_clamps context (v := v) rfl Real64.infinity).2.1 infinite).2
  exact ⟨rfl, truncated, stored, infinite, refused⟩

/-- A float that has no integer for `truncate` becomes the greatest one in a variable. -/
theorem coerce_float_beyond_range :
    let context : Context := ⟨⟨.default, .standard⟩, ⟨[]⟩⟩
    let v : Variable :=
      ⟨"COUNT", .single .integer, .template ⟨false, false⟩, .null, .null⟩
    Gives (Operator.truncate.apply context [.float 1e300]) (.ok .null) ∧
      v.coerce (.float 1e300) = .ok (.integer 9223372036854775807) := by
  intro context v
  have result : Arithmetic.truncate 1e300 = .null := by decide +kernel
  refine ⟨?_, by decide +kernel⟩
  rw [← result]
  exact Operator.truncate_gives context _

end Variable

end Assessment
