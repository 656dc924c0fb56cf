import Assessment.Proofs.IntegerDouble
import Assessment.Proofs.IntegerOperands

/-!
# Roundings of integers

The operators that round numbers round the nearest double of an integer.  A double that is
an integer is left as it is by `truncate`, `floor` and `ceil`, so these give the nearest
double.  For `round` one half is added first, and where the sum has no double of its own
this may lead to the next integer.
-/

namespace Assessment

open Evaluation (Gives)

namespace Real64

/-! ## One half more -/

variable {m : Nat} {v : Int}

theorem Short.even (short : Short m) (large : 2 ^ 53 ≤ m) : m % 2 = 0 := by
  obtain ⟨significand, exponent, few, rfl⟩ := short
  cases exponent with
  | zero => omega
  | succ exponent => rw [Nat.pow_succ, ← Nat.mul_assoc, Nat.mul_mod_left]

theorem Short.half (short : Short (2 * m)) (large : 2 ^ 53 ≤ 2 * m) : Short m := by
  obtain ⟨significand, exponent, few, same⟩ := short
  cases exponent with
  | zero => omega
  | succ exponent =>
      refine ⟨significand, exponent, few, ?_⟩
      rw [Nat.pow_succ, ← Nat.mul_assoc] at same
      omega

theorem Short.double (short : Short m) : Short (2 * m) := by
  obtain ⟨significand, exponent, few, rfl⟩ := short
  exact ⟨significand, exponent + 1, few, by rw [Nat.pow_succ]; ring⟩

/-- Odd numbers of fifty-four bits lie half way between two doubles. -/
theorem nearestNat_odd (lower : 2 ^ 52 ≤ m) (upper : m < 2 ^ 53) :
    nearestNat (2 * m + 1) = 2 * (m + m % 2) := by
  have bits : (2 * m + 1).log2 = 53 :=
    (Nat.log2_eq_iff (Nat.succ_ne_zero _)).mpr ⟨by omega, by omega⟩
  have one : surplus (2 * m + 1) = 1 := by rw [surplus, bits]
  rw [nearestNat, one, divideHalfEven]
  rw [if_neg (by omega), if_neg (by omega)]
  split
  next even =>
    have := beq_iff_eq.mp even
    omega
  next odd =>
    have := mt beq_iff_eq.mpr odd
    omega

/-- Beyond, the neighbours of a double that are farther than one half away are even. -/
theorem nearestNat_two_mul_add_one (short : Short m) (large : 2 ^ 53 ≤ m) :
    nearestNat (2 * m + 1) = 2 * m := by
  have near := nearestNat_closest (n := 2 * m + 1) short.double
  have rounded := short_nearestNat (2 * m + 1)
  have even := short.even large
  have even' := rounded.even (by omega)
  obtain same | above : nearestNat (2 * m + 1) = 2 * m ∨
      nearestNat (2 * m + 1) = 2 * (m + 1) := by omega
  · exact same
  · rw [above] at rounded
    have odd := (rounded.half (by omega)).even (by omega)
    omega

theorem nearestNat_two_mul_sub_one (short : Short m) (large : 2 ^ 53 < m) :
    nearestNat (2 * m - 1) = 2 * m := by
  have near := nearestNat_closest (n := 2 * m - 1) short.double
  have rounded := short_nearestNat (2 * m - 1)
  have even := short.even large.le
  have even' := rounded.even (by omega)
  obtain same | below : nearestNat (2 * m - 1) = 2 * m ∨
      nearestNat (2 * m - 1) = 2 * (m - 1) := by omega
  · exact same
  · rw [below] at rounded
    have odd := (rounded.half (by omega)).even (by omega)
    omega

theorem nearest_half_natCast (short : Short m) :
    nearest (2 * m + 1) / 2 = if m ≤ 2 ^ 52 then (m : Int) else m + (m : Int) % 2 := by
  have rounded : nearest (2 * m + 1) = nearestNat (2 * m + 1) := nearest_natCast (2 * m + 1)
  rw [rounded]
  rcases Nat.lt_or_ge m (2 ^ 52) with small | large
  · rw [nearestNat_of_lt (by omega), if_pos small.le]
    omega
  rcases Nat.lt_or_ge m (2 ^ 53) with middle | huge
  · rw [nearestNat_odd large middle]
    split <;> omega
  · have even := short.even huge
    rw [nearestNat_two_mul_add_one short huge, if_neg (by omega)]
    omega

theorem nearest_half_neg (short : Short m) (positive : 0 < m) :
    nearest (2 * -m + 1) / 2 = if m ≤ 2 ^ 52 then (-m : Int) else -m + (-m : Int) % 2 := by
  have rounded : nearest (2 * -m + 1) = -nearestNat (2 * m - 1) := by
    rw [← nearest_natCast, ← nearest_neg]
    congr 1
    omega
  rw [rounded]
  rcases Nat.lt_or_ge (2 ^ 52) m with large | small
  · rw [if_neg (by omega)]
    rcases Nat.lt_or_ge (2 ^ 53) m with huge | middle
    · have even := short.even huge.le
      rw [nearestNat_two_mul_sub_one short huge]
      omega
    · have odd : nearestNat (2 * m - 1) = 2 * (m - 1 + (m - 1) % 2) := by
        rw [← nearestNat_odd (m := m - 1) (by omega) (by omega)]
        congr 1
        omega
      rw [odd]
      omega
  · rw [nearestNat_of_lt (by omega), if_pos small]
    omega

/-- The floor of the double that is nearest to an integer and one half.  Where no doubles
lie between whole numbers any more, odd integers are rounded up. -/
def halfUp (v : Int) : Int :=
  if v.natAbs ≤ 2 ^ 52 then v else v + v % 2

theorem nearest_half (short : Short v.natAbs) : nearest (2 * v + 1) / 2 = halfUp v := by
  unfold halfUp
  obtain ⟨m, rfl | rfl⟩ := v.eq_nat_or_neg
  · rw [Int.natAbs_natCast] at short ⊢
    exact nearest_half_natCast short
  · rw [Int.natAbs_neg, Int.natAbs_natCast] at short ⊢
    rcases Nat.eq_zero_or_pos m with rfl | positive
    · rfl
    · exact nearest_half_neg short positive

theorem halfUp_of_large (large : 2 ^ 53 ≤ v.natAbs) : halfUp (nearest v) = nearest v := by
  have many : ¬(nearest v).natAbs < 2 ^ 53 := mt natAbs_nearest_lt_iff.mp (Nat.not_lt.mpr large)
  have even := (short_nearest v).even (Nat.not_lt.mp many)
  rw [halfUp, if_neg (by omega)]
  omega

theorem halfUp_eq_iff (v : Int) :
    halfUp (nearest v) = v ↔ Short v.natAbs ∧ (v.natAbs ≤ 2 ^ 52 ∨ v % 2 = 0) := by
  rcases Nat.lt_or_ge v.natAbs (2 ^ 53) with small | large
  · have short := short_of_le small.le
    rw [nearest_of_small small.le, halfUp]
    constructor
    · intro same
      refine ⟨short, ?_⟩
      split at same <;> omega
    · rintro ⟨-, few | even⟩
      · exact if_pos few
      · split <;> omega
  · rw [halfUp_of_large large, nearest_eq_self_iff]
    refine ⟨fun short => ⟨short, .inr ?_⟩, And.left⟩
    have even := short.even large
    omega

/-! ## The ends of the range -/

theorem word_nearest_iff (i : Int64) :
    Word.long.Holds (nearest i.toInt) ↔ i.toInt < 2 ^ 63 - 512 := by
  obtain ⟨lower, upper⟩ := Word.long_holds i
  have least : nearest (-2 ^ 63) ≤ nearest i.toInt := nearest_mono lower
  rw [show nearest (-2 ^ 63) = -2 ^ 63 by decide +kernel] at least
  rcases lt_or_ge i.toInt (2 ^ 63 - 512) with below | above
  · have greatest : nearest i.toInt ≤ nearest (2 ^ 63 - 513) := nearest_mono (by omega)
    rw [show nearest (2 ^ 63 - 513) = 2 ^ 63 - 1024 by decide +kernel] at greatest
    refine ⟨fun _ => below, fun _ => ⟨least, greatest.trans (by decide)⟩⟩
  · have greatest : nearest (2 ^ 63 - 512) ≤ nearest i.toInt := nearest_mono above
    rw [show nearest (2 ^ 63 - 512) = 2 ^ 63 by decide +kernel] at greatest
    refine ⟨fun holds => ?_, fun below => absurd above (Int.not_le.mpr below)⟩
    exact absurd (greatest.trans holds.2) (by decide)

theorem word_halfUp_iff (i : Int64) :
    Word.long.Holds (halfUp (nearest i.toInt)) ↔ i.toInt < 2 ^ 63 - 512 := by
  rcases Nat.lt_or_ge i.toInt.natAbs (2 ^ 53) with small | large
  · rw [nearest_of_small small.le, halfUp]
    refine ⟨fun _ => by omega, fun _ => ?_⟩
    simp only [Word.Holds, Word.long, Integer.least, Integer.greatest]
    split <;> omega
  · rw [halfUp_of_large large, word_nearest_iff]

end Real64

/-! ## Whole numbers -/

/-- The integer if it has at most 64 bits, and NULL otherwise. -/
def Value.ofBounded (n : Int) : Value :=
  match Integer.ofInt? n with
  | some i => .integer i
  | none => .null

theorem Value.ofBounded_eq_integer_iff {n : Int} {i : Int64} :
    ofBounded n = .integer i ↔ n = i.toInt := by
  unfold ofBounded
  constructor
  · intro same
    split at same
    next j held =>
      cases same
      exact (Integer.toInt_ofInt?_eq held).symm
    next => cases same
  · rintro rfl
    rw [Integer.ofInt?_toInt]

theorem Value.ofBounded_eq_null_iff {n : Int} : ofBounded n = .null ↔ ¬Word.long.Holds n := by
  unfold ofBounded Integer.ofInt?
  by_cases holds : Word.long.Holds n
  · rw [if_pos (Word.fits_iff.mpr holds)]
    exact ⟨nofun, absurd holds⟩
  · rw [if_neg (mt Word.fits_iff.mp holds)]
    exact ⟨fun _ => holds, fun _ => rfl⟩

namespace Arithmetic

variable {x : Float} {q : ℚ} {v : Int}

theorem whole_of_holds (holds : Real64.Holds x q) {part : Dyadic → Int}
    (taken : ∀ parts : Dyadic, parts.value = q → part parts = v) :
    whole part x = .ofBounded v := by
  obtain ⟨parts, apart, value⟩ := holds.ofFloat?
  rw [whole, apart, Option.bind_some, taken parts value]
  rfl

theorem whole_floor (holds : Real64.Holds x q) : whole Dyadic.floor x = .ofBounded ⌊q⌋ :=
  whole_of_holds holds fun parts value => by rw [parts.floor_eq, value]

theorem floor_integer (holds : Real64.Holds x v) : whole Dyadic.floor x = .ofBounded v := by
  rw [whole_floor holds, Int.floor_intCast]

theorem ceiling_integer (holds : Real64.Holds x v) : whole Dyadic.ceiling x = .ofBounded v :=
  whole_of_holds holds fun parts value => by rw [parts.ceiling_eq, value, Int.ceil_intCast]

theorem truncate_integer (holds : Real64.Holds x v) : truncate x = .ofBounded v :=
  whole_of_holds holds fun parts value => by
    rw [parts.truncate_eq, value, Int.floor_intCast, Int.ceil_intCast, ite_self]

theorem round_integer (holds : Real64.Holds x v) (short : Real64.Short v.natAbs)
    (word : v.natAbs < 2 ^ 64) : round x = .ofBounded (Real64.halfUp v) := by
  have sum := Real64.holds_add_half holds word
  rw [round, whole_floor sum, ← Real64.nearest_half short]
  congr 1
  exact (Rat.floor_intCast_div_natCast _ 2)

end Arithmetic

namespace Operator

variable {context : Context} {operator : Operator} {n : Int64} {m : Int}

open Real64 (Short nearest halfUp)

/-- The operators that take a whole number on one side of a number. -/
def wholes : List Operator :=
  [.truncate, .math .floor, .math .ceil]

theorem wholes_give (context : Context) (n : Int64) (member : operator ∈ wholes) :
    Gives (operator.apply context [.integer n]) (.ok (.ofBounded (nearest n.toInt))) := by
  have holds := Real64.holds_ofInteger n
  simp only [wholes, List.mem_cons, List.not_mem_nil, or_false] at member
  rcases member with rfl | rfl | rfl
  · rw [← Arithmetic.truncate_integer holds]
    exact apply_integers context [n] (by simp) (by decide) rfl
  · rw [← Arithmetic.floor_integer holds]
    exact apply_integers context [n] (by simp) (by decide) rfl
  · rw [← Arithmetic.ceiling_integer holds]
    exact apply_integers context [n] (by simp) (by decide) rfl

theorem round_gives (context : Context) (n : Int64) :
    Gives (Operator.round.apply context [.integer n])
      (.ok (.ofBounded (halfUp (nearest n.toInt)))) := by
  have lower := Int64.le_toInt n
  have upper := Int64.toInt_lt n
  have word : (nearest n.toInt).natAbs ≤ 2 ^ 63 := Real64.natAbs_nearest_le (by omega)
  have rounded := Arithmetic.round_integer (Real64.holds_ofInteger n) (Real64.short_nearest _)
    (by omega)
  rw [← rounded]
  exact apply_integers context [n] (by simp) (by decide) rfl

theorem gives_integer_iff
    (gives : Gives (operator.apply context [.integer n]) (.ok (.ofBounded m))) (i : Int64) :
    Gives (operator.apply context [.integer n]) (.ok (.integer i)) ↔ m = i.toInt := by
  rw [← Value.ofBounded_eq_integer_iff]
  exact ⟨fun gives' => Except.ok.inj (gives.unique gives'), fun same => same ▸ gives⟩

theorem gives_null_iff
    (gives : Gives (operator.apply context [.integer n]) (.ok (.ofBounded m))) :
    Gives (operator.apply context [.integer n]) (.ok .null) ↔ ¬Word.long.Holds m := by
  rw [← Value.ofBounded_eq_null_iff]
  exact ⟨fun gives' => Except.ok.inj (gives.unique gives'), fun same => same ▸ gives⟩

/-- For all words, the operators that take a whole number give the nearest double of a word
as an integer, and `round` adds one to an odd one with fifty-three bits.  They give the
word itself just if it has at most fifty-three significant bits, and `round` just if besides
it is even or has at most fifty-two.  The greatest words have a double beyond the range, and
for them all four are NULL. -/
theorem integers_rounded_as_nearest (context : Context) (n : Int64) :
    (∀ operator ∈ wholes,
      Gives (operator.apply context [.integer n]) (.ok (.ofBounded (nearest n.toInt))) ∧
        (Gives (operator.apply context [.integer n]) (.ok (.integer n)) ↔
          Short n.toInt.natAbs)) ∧
      Gives (Operator.round.apply context [.integer n])
        (.ok (.ofBounded (halfUp (nearest n.toInt)))) ∧
      (Gives (Operator.round.apply context [.integer n]) (.ok (.integer n)) ↔
        Short n.toInt.natAbs ∧ (n.toInt.natAbs ≤ 2 ^ 52 ∨ n.toInt % 2 = 0)) ∧
      (n.toInt.natAbs ≤ 2 ^ 52 → ∀ operator ∈ Operator.round :: wholes,
        Gives (operator.apply context [.integer n]) (.ok (.integer n))) ∧
      ∀ operator ∈ Operator.round :: wholes,
        (Gives (operator.apply context [.integer n]) (.ok .null) ↔
          2 ^ 63 - 512 ≤ n.toInt) := by
  have rounds := round_gives context n
  have wholes_iff {operator : Operator} (member : operator ∈ wholes) :
      Gives (operator.apply context [.integer n]) (.ok (.integer n)) ↔ Short n.toInt.natAbs :=
    (gives_integer_iff (wholes_give context n member) n).trans Real64.nearest_eq_self_iff
  have round_iff : Gives (Operator.round.apply context [.integer n]) (.ok (.integer n)) ↔
      Short n.toInt.natAbs ∧ (n.toInt.natAbs ≤ 2 ^ 52 ∨ n.toInt % 2 = 0) :=
    (gives_integer_iff rounds n).trans (Real64.halfUp_eq_iff _)
  refine ⟨fun operator member => ⟨wholes_give context n member, wholes_iff member⟩, rounds,
    round_iff, fun few => ?_, ?_⟩
  · have short : Short n.toInt.natAbs := Real64.short_of_le (few.trans (by decide))
    rintro operator (_ | ⟨_, member⟩)
    · exact round_iff.mpr ⟨short, .inl few⟩
    · exact (wholes_iff member).mpr short
  · rintro operator (_ | ⟨_, member⟩)
    · rw [gives_null_iff rounds, Real64.word_halfUp_iff, not_lt]
    · rw [gives_null_iff (wholes_give context n member), Real64.word_nearest_iff, not_lt]

/-- Integers that are not left as they are: an odd one with fifty-three bits, an odd one with
more, and the greatest word. -/
theorem integers_changed_by_rounding :
    let context : Context := ⟨⟨.default, .standard⟩, ⟨[]⟩⟩
    Gives (Operator.round.apply context [.integer 4503599627370497])
        (.ok (.integer 4503599627370498)) ∧
      (∀ operator ∈ wholes, Gives (operator.apply context [.integer 9007199254740993])
        (.ok (.integer 9007199254740992))) ∧
      ∀ operator ∈ Operator.round :: wholes,
        Gives (operator.apply context [.integer 9223372036854775807]) (.ok .null) := by
  intro context
  have beyond : nearest (9223372036854775807 : Int64).toInt = 2 ^ 63 := by decide +kernel
  refine ⟨?_, fun operator member => ?_, ?_⟩
  · rw [gives_integer_iff (round_gives context _)]
    decide +kernel
  · rw [gives_integer_iff (wholes_give context _ member)]
    decide +kernel
  · rintro operator (_ | ⟨_, member⟩)
    · rw [gives_null_iff (round_gives context _)]
      decide +kernel
    · rw [gives_null_iff (wholes_give context _ member)]
      decide +kernel

end Operator

end Assessment
