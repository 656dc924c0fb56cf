import Assessment.Number.Dyadic
import Mathlib.Algebra.Group.Nat.Defs

/-!
# Doubles, finite and not

The bits of a double decide what it is.  There are only three doubles that are not
finite, since all bit patterns of NaN are one: the infinities and NaN.  Of two finite
doubles one is at most the other.  Two doubles are equal if they stand for the same
number, which NaN does not do.
-/

namespace Assessment.Real64

open Float.Model UnpackedFloat

/-- The bits of a double as a number. -/
def bits (x : Float) : Nat :=
  x.toBits.toNat

/-- The eleven bits of the exponent. -/
def exponentBits (x : Float) : BitVec 11 :=
  @unpackExponent Format.binary64 x.toBits.toBitVec

/-- The bits behind the exponent. -/
def mantissaBits (x : Float) : BitVec 52 :=
  @unpackMantissa Format.binary64 x.toBits.toBitVec

theorem eq_of_bits_eq {x y : Float} (same : bits x = bits y) : x = y := by
  obtain ⟨⟨xBits, _⟩⟩ := x
  obtain ⟨⟨yBits, _⟩⟩ := y
  have equal : xBits = yBits := UInt64.toNat_inj.mp same
  subst equal
  rfl

theorem exponentBits_of_not_finite {x : Float} (notFinite : x.isFinite = false) :
    exponentBits x = -1#11 := by
  refine Decidable.byContradiction fun notAllSet => ?_
  have unpacked : unpack Format.binary64 x.toBits.toBitVec = _ := if_neg notAllSet
  have finite : (unpack Format.binary64 x.toBits.toBitVec).isFinite = true := by
    rw [unpacked]
    by_cases noneSet : exponentBits x = 0#11
    · refine (congrArg UnpackedFloat.isFinite (if_pos noneSet)).trans ?_
      by_cases zero : mantissaBits x = 0#52
      · exact congrArg UnpackedFloat.isFinite (dif_pos zero)
      · exact congrArg UnpackedFloat.isFinite (dif_neg zero)
    · exact congrArg UnpackedFloat.isFinite (if_neg noneSet)
  exact Bool.false_ne_true (notFinite.symm.trans finite)

theorem toNat_exponentBits (x : Float) :
    (exponentBits x).toNat = bits x / 2 ^ 52 % 2 ^ 11 := by
  simp [exponentBits, unpackExponent, bits, Nat.shiftRight_eq_div_pow]

theorem toNat_mantissaBits (x : Float) : (mantissaBits x).toNat = bits x % 2 ^ 52 := by
  simp [mantissaBits, unpackMantissa, bits]

theorem allSet_of_not_finite {x : Float} (notFinite : x.isFinite = false) :
    bits x / 2 ^ 52 % 2 ^ 11 = 2047 := by
  rw [← toNat_exponentBits, exponentBits_of_not_finite notFinite]
  rfl

theorem eq_special_of_not_finite {x : Float} (notFinite : x.isFinite = false) :
    x = infinity ∨ x = -infinity ∨ x = nan := by
  have exponent := exponentBits_of_not_finite notFinite
  have allSet := allSet_of_not_finite notFinite
  by_cases mantissa : mantissaBits x = 0#52
  · have noneSet : bits x % 2 ^ 52 = 0 := by
      rw [← toNat_mantissaBits, mantissa]
      rfl
    have range : bits x < 2 ^ 64 := UInt64.toNat_lt _
    have positive : bits infinity = 2047 * 2 ^ 52 := by decide +kernel
    have negative : bits (-infinity) = 2 ^ 63 + 2047 * 2 ^ 52 := by decide +kernel
    by_cases sign : bits x < 2 ^ 63
    · exact .inl (eq_of_bits_eq (by omega))
    · exact .inr (.inl (eq_of_bits_eq (by omega)))
  · have canonical := x.toModel.valid.eq_packedNaN exponent mantissa
    refine .inr (.inr (eq_of_bits_eq ?_))
    have packed : bits x = (packedNaN Format.binary64).toNat := congrArg BitVec.toNat canonical
    rw [packed]
    decide +kernel

/-! ## Order -/

/-- Numbers of one sign are compared by their exponents and then by their mantissas. -/
theorem magnitude_swap (e e' : Int) (m m' : Nat) :
    (compare e' e).then (compare m' m) = ((compare e e').then (compare m m')).swap := by
  rw [Ordering.swap_then, ← Std.OrientedCmp.eq_swap, ← Std.OrientedCmp.eq_swap]

theorem compare_swap {a b : UnpackedFloat} (finiteA : a.isFinite = true)
    (finiteB : b.isFinite = true) :
    ∃ order, a.compare b = some order ∧ b.compare a = some order.swap := by
  cases a with
  | notANumber | infinity => cases finiteA
  | zero sign =>
      cases b with
      | notANumber | infinity => cases finiteB
      | zero other => exact ⟨_, rfl, rfl⟩
      | finite other => cases other <;> exact ⟨_, rfl, rfl⟩
  | finite sign m e =>
      cases b with
      | notANumber | infinity => cases finiteB
      | zero other => cases sign <;> exact ⟨_, rfl, rfl⟩
      | finite other m' e' =>
          cases sign <;> cases other
          case positive.positive => exact ⟨_, rfl, congrArg some (magnitude_swap e e' m m')⟩
          case negative.negative =>
            exact ⟨_, rfl, congrArg (fun (order : Ordering) => some order.swap)
              (magnitude_swap e e' m m')⟩
          all_goals exact ⟨_, rfl, rfl⟩

theorem lt_iff {x y : Float} :
    x < y ↔ x.toModel.unpack.compare y.toModel.unpack = some .lt := by
  change decide (x.toModel < y.toModel) = true ↔ _
  rw [decide_eq_true_iff]
  exact beq_iff_eq

theorem le_iff {x y : Float} :
    x ≤ y ↔ (x.toModel.unpack.compare y.toModel.unpack).any (·.isLE) = true := by
  change decide (x.toModel ≤ y.toModel) = true ↔ _
  rw [decide_eq_true_iff]
  rfl

theorem le_of_not_lt {x y : Float} (finiteX : x.isFinite = true) (finiteY : y.isFinite = true)
    (notLess : ¬y < x) : x ≤ y := by
  obtain ⟨order, forth, back⟩ := compare_swap (a := x.toModel.unpack) finiteX finiteY
  rw [lt_iff, back] at notLess
  rw [le_iff, forth]
  cases order with
  | gt => exact absurd rfl notLess
  | lt | eq => rfl

theorem not_lt_of_lt {x y : Float} (finiteX : x.isFinite = true) (finiteY : y.isFinite = true)
    (less : x < y) : ¬y < x := by
  obtain ⟨_, forth, back⟩ := compare_swap (a := x.toModel.unpack) finiteX finiteY
  rw [lt_iff.mp less] at forth
  cases forth
  rw [lt_iff, back]
  exact nofun

theorem le_of_lt {x y : Float} (less : x < y) : x ≤ y := by
  rw [lt_iff] at less
  rw [le_iff, less]
  rfl

/-! ## Equality -/

/-- The doubles stand for the same number: zeros of both signs do, and NaN stands for
none. -/
inductive SameNumber : UnpackedFloat → UnpackedFloat → Prop where
  | zero (sign other : Sign) : SameNumber (.zero sign) (.zero other)
  | infinity (sign : Sign) : SameNumber (.infinity sign) (.infinity sign)
  | finite (sign : Sign) (m : Nat) (e : Int) (positive : 0 < m) :
      SameNumber (.finite sign m e positive) (.finite sign m e positive)

namespace SameNumber

variable {a b c : UnpackedFloat}

theorem symm (same : SameNumber a b) : SameNumber b a := by
  cases same with
  | zero sign other => exact .zero other sign
  | infinity sign => exact .infinity sign
  | finite sign m e positive => exact .finite sign m e positive

theorem trans (sameAB : SameNumber a b) (sameBC : SameNumber b c) : SameNumber a c := by
  cases sameAB with
  | zero sign => cases sameBC with | zero _ other => exact .zero sign other
  | infinity => exact sameBC
  | finite => exact sameBC

theorem self_iff : SameNumber a a ↔ a.isNaN = false := by
  cases a with
  | notANumber => exact ⟨nofun, nofun⟩
  | infinity sign => exact ⟨fun _ => rfl, fun _ => .infinity sign⟩
  | zero sign => exact ⟨fun _ => rfl, fun _ => .zero sign sign⟩
  | finite sign m e positive => exact ⟨fun _ => rfl, fun _ => .finite sign m e positive⟩

end SameNumber

theorem magnitude_eq_iff {e e' : Int} {m m' : Nat} :
    (compare e e').then (compare m m') = .eq ↔ e = e' ∧ m = m' := by
  rw [Ordering.then_eq_eq, Std.compare_eq_iff_eq, Std.compare_eq_iff_eq]

theorem sameNumber_of_compare {a b : UnpackedFloat} (equal : a.compare b = some .eq) :
    SameNumber a b := by
  cases a with
  | notANumber => cases equal
  | infinity sign =>
      cases b with
      | infinity other =>
          cases sign <;> cases other
          case positive.positive | negative.negative => exact .infinity _
          all_goals cases equal
      | _ => cases sign <;> cases equal
  | zero sign =>
      cases b with
      | notANumber => cases equal
      | infinity other | finite other => cases other <;> cases equal
      | zero other => exact .zero sign other
  | finite sign m e =>
      cases b with
      | notANumber => cases equal
      | infinity other => cases other <;> cases equal
      | zero other => cases sign <;> cases equal
      | finite other m' e' =>
          have order : sign = other ∧ (compare e e').then (compare m m') = .eq := by
            cases sign <;> cases other
            case positive.positive => exact ⟨rfl, Option.some.inj equal⟩
            case negative.negative =>
              exact ⟨rfl, Ordering.swap_eq_eq.mp (Option.some.inj equal)⟩
            all_goals cases equal
          obtain ⟨rfl, rfl, rfl⟩ := order.imp_right magnitude_eq_iff.mp
          exact .finite _ _ _ _

theorem compare_of_sameNumber {a b : UnpackedFloat} (same : SameNumber a b) :
    a.compare b = some .eq := by
  cases same with
  | zero => rfl
  | infinity sign => cases sign <;> rfl
  | finite sign m e =>
      have order : (compare e e).then (compare m m) = .eq := magnitude_eq_iff.mpr ⟨rfl, rfl⟩
      cases sign with
      | positive => exact congrArg some order
      | negative => exact congrArg (fun (order : Ordering) => some order.swap) order

theorem beq_iff {x y : Float} :
    (x == y) = true ↔ SameNumber x.toModel.unpack y.toModel.unpack := by
  have compared : (x == y) = true ↔
      x.toModel.unpack.compare y.toModel.unpack = some .eq :=
    beq_iff_eq (α := Option Ordering)
  exact compared.trans ⟨sameNumber_of_compare, compare_of_sameNumber⟩

theorem beq_self_iff {x : Float} : (x == x) = true ↔ x.isNaN = false :=
  beq_iff.trans SameNumber.self_iff

/-- NaN is not less than anything. -/
theorem le_self_of_le {x y : Float} (le : x ≤ y) : x ≤ x := by
  have number : x.toModel.unpack.isNaN = false := by
    rw [le_iff] at le
    cases unpacked : x.toModel.unpack with
    | notANumber =>
        rw [unpacked] at le
        cases le
    | _ => rfl
  rw [le_iff, compare_of_sameNumber (SameNumber.self_iff.mpr number)]
  rfl

theorem beq_of_lt {x y : Float} (less : x < y) : (x == y) = false := by
  apply eq_false_of_ne_true
  intro same
  have equal := compare_of_sameNumber (beq_iff.mp same)
  rw [lt_iff.mp less] at equal
  cases equal

theorem beq_symm {x y : Float} (same : (x == y) = true) : (y == x) = true :=
  beq_iff.mpr (beq_iff.mp same).symm

theorem beq_trans {x y z : Float} (sameXY : (x == y) = true) (sameYZ : (y == z) = true) :
    (x == z) = true :=
  beq_iff.mpr ((beq_iff.mp sameXY).trans (beq_iff.mp sameYZ))

end Assessment.Real64
