import Assessment.Proofs.IntegerDouble
import Assessment.Proofs.IntegerOperands

/-!
# Comparisons of integers

The operators that compare numbers compare the nearest doubles of integers.  These are in
the same order, so that a lesser integer is never taken for a greater one.  But different
integers may have the same nearest double, and then they are taken for equal.
-/

namespace Assessment

open Evaluation (Gives)

namespace NumericOrder

/-- The order relation between integers. -/
def Relates (order : NumericOrder) (a b : Int) : Prop :=
  match order with
  | .lt => a < b
  | .gt => b < a
  | .lte => a ≤ b
  | .gte => b ≤ a

instance (order : NumericOrder) (a b : Int) : Decidable (order.Relates a b) :=
  match order with
  | .lt => inferInstanceAs (Decidable (a < b))
  | .gt => inferInstanceAs (Decidable (b < a))
  | .lte => inferInstanceAs (Decidable (a ≤ b))
  | .gte => inferInstanceAs (Decidable (b ≤ a))

end NumericOrder

/-- Attributes that refer to variables have values.  Tolerances must have values even where
the comparison does not use them. -/
def Equality.Resolves (equality : Equality) (store : Store) : Prop :=
  ∀ below above, equality.tolerance = some (below, above) →
    ∃ x y, below.resolveFloat "equal" "tolerance" store = .ok x ∧
      above.resolveFloat "equal" "tolerance" store = .ok y

namespace Comparison

variable {x y : Float} {a b : Int}

theorem holds_eq (left : Real64.Holds x a) (right : Real64.Holds y b) (order : NumericOrder) :
    holds order x y = decide (order.Relates a b) := by
  cases order with
  | lt => exact decide_eq_decide.mpr ((left.lt_iff right).trans Int.cast_lt)
  | gt => exact decide_eq_decide.mpr ((right.lt_iff left).trans Int.cast_lt)
  | lte => exact decide_eq_decide.mpr ((left.le_iff right).trans Int.cast_le)
  | gte => exact decide_eq_decide.mpr ((right.le_iff left).trans Int.cast_le)

theorem beq_eq (left : Real64.Holds x a) (right : Real64.Holds y b) :
    (x == y) = decide (a = b) := by
  rw [Bool.eq_iff_iff, decide_eq_true_iff]
  exact (left.beq_iff right).trans Int.cast_inj

theorem equal_exact {store : Store} {equality : Equality} (exact : equality.mode = .exact)
    (resolves : equality.Resolves store) (x y : Float) :
    equal store equality x y = .ok (.boolean (x == y)) := by
  unfold equal
  split
  next => rfl
  next below above given =>
    obtain ⟨low, high, lowHolds, highHolds⟩ := resolves below above given
    rw [lowHolds, highHolds]
    change Except.ok (Value.boolean (withinTolerance equality low high x y)) = _
    rw [withinTolerance, exact]

end Comparison

namespace Real64

variable {a b : Int}

theorem nearest_lt_of_lt (less : a < b) (different : nearest a ≠ nearest b) :
    nearest a < nearest b :=
  lt_of_le_of_ne (nearest_mono less.le) different

/-- Where different integers have different nearest doubles, those are ordered alike. -/
theorem relates_nearest_iff (separate : nearest a = nearest b → a = b) (order : NumericOrder) :
    order.Relates (nearest a) (nearest b) ↔ order.Relates a b := by
  rcases Int.lt_trichotomy a b with less | rfl | greater
  · have less' := nearest_lt_of_lt less (mt separate less.ne)
    cases order <;> simp only [NumericOrder.Relates] <;> omega
  · cases order <;> simp only [NumericOrder.Relates] <;> omega
  · have greater' := nearest_lt_of_lt greater fun same => greater.ne' (separate same.symm)
    cases order <;> simp only [NumericOrder.Relates] <;> omega

/-- An integer of less than fifty-four bits shares its nearest double with no other one. -/
theorem eq_of_nearest_eq (small : a.natAbs < 2 ^ 53) (same : nearest a = nearest b) : a = b := by
  have self : nearest a = a := nearest_of_small small.le
  have small' : b.natAbs < 2 ^ 53 := natAbs_nearest_lt_iff.mp (by rwa [← same, self])
  rw [← self, same, nearest_of_small small'.le]

end Real64

namespace Operator

variable {context : Context} {a b : Int64}

open Real64 (nearest)

/-- Asked for the operands `a` and `b`, the operators that compare numbers answer what `p`
and `q` are to each other. -/
structure ComparedAs (context : Context) (a b : Int64) (p q : Int) : Prop where
  order : ∀ order : NumericOrder,
    Gives ((Operator.compare order).apply context [.integer a, .integer b])
      (.ok (.boolean (order.Relates p q)))
  equal : ∀ equality : Equality, equality.mode = .exact → equality.Resolves context.store →
    Gives ((Operator.equal equality).apply context [.integer a, .integer b])
      (.ok (.boolean (p = q)))

theorem comparedAs_nearest (context : Context) (a b : Int64) :
    ComparedAs context a b (nearest a.toInt) (nearest b.toInt) := by
  have left := Real64.holds_ofInteger a
  have right := Real64.holds_ofInteger b
  constructor
  · intro order
    rw [← Comparison.holds_eq left right order]
    exact apply_integers context [a, b] (by simp) (by decide) rfl
  · intro equality exact resolves
    rw [← Comparison.beq_eq left right, ← Comparison.equal_exact exact resolves]
    exact apply_integers context [a, b] (by simp) (by decide) rfl

/-- The operators answer what the integers themselves are to each other just if no other
integer of the two has the same nearest double. -/
theorem comparedAs_self_iff (context : Context) (a b : Int64) :
    ComparedAs context a b a.toInt b.toInt ↔
      (nearest a.toInt = nearest b.toInt → a.toInt = b.toInt) := by
  have compared := comparedAs_nearest context a b
  constructor
  · intro exact same
    have answer := exact.equal ⟨.exact, none, true, true⟩ rfl nofun
    have answer' := compared.equal ⟨.exact, none, true, true⟩ rfl nofun
    have alike := answer.unique answer'
    simp only [Except.ok.injEq, Value.boolean, Value.single.injEq, Scalar.boolean.injEq,
      decide_eq_decide] at alike
    exact alike.mpr same
  · intro separate
    constructor
    · intro order
      rw [← decide_eq_decide.mpr (Real64.relates_nearest_iff separate order)]
      exact compared.order order
    · intro equality exact resolves
      have same : a.toInt = b.toInt ↔ nearest a.toInt = nearest b.toInt :=
        ⟨congrArg nearest, separate⟩
      rw [decide_eq_decide.mpr same]
      exact compared.equal equality exact resolves

/-- Asked whether `a` is less than, equal to and greater than `b`, the operators answer
once with true. -/
def OneTrue (context : Context) (a b : Int64) (equality : Equality) : Prop :=
  ∃ less same greater : Bool,
    Gives ((Operator.compare .lt).apply context [.integer a, .integer b])
      (.ok (.boolean less)) ∧
    Gives ((Operator.equal equality).apply context [.integer a, .integer b])
      (.ok (.boolean same)) ∧
    Gives ((Operator.compare .gt).apply context [.integer a, .integer b])
      (.ok (.boolean greater)) ∧
    [less, same, greater].count true = 1

theorem ComparedAs.oneTrue {p q : Int} (compared : ComparedAs context a b p q)
    {equality : Equality} (exact : equality.mode = .exact)
    (resolves : equality.Resolves context.store) : OneTrue context a b equality := by
  refine ⟨_, _, _, compared.order .lt, compared.equal equality exact resolves,
    compared.order .gt, ?_⟩
  simp only [NumericOrder.Relates]
  rcases Int.lt_trichotomy p q with less | rfl | greater
  · simp [less, less.ne, less.not_gt]
  · simp
  · simp [greater, greater.ne', greater.not_gt]

/-- For all words, the operators that compare numbers answer what the nearest doubles of the
two are to each other.  So exactly one of `lt`, exact `equal` and `gt` is true.  A word
that is less than another one is never taken for greater, but it may be taken for equal.
The answers are those for the words themselves just if this does not happen, in particular
if one of the words has at most fifty-three bits. -/
theorem integers_compared_as_nearest (context : Context) (a b : Int64) :
    ComparedAs context a b (nearest a.toInt) (nearest b.toInt) ∧
      (a.toInt ≤ b.toInt → nearest a.toInt ≤ nearest b.toInt) ∧
      (∀ equality : Equality, equality.mode = .exact → equality.Resolves context.store →
        OneTrue context a b equality) ∧
      (ComparedAs context a b a.toInt b.toInt ↔
        (nearest a.toInt = nearest b.toInt → a.toInt = b.toInt)) ∧
      (a.toInt.natAbs < 2 ^ 53 ∨ b.toInt.natAbs < 2 ^ 53 →
        ComparedAs context a b a.toInt b.toInt) := by
  have compared := comparedAs_nearest context a b
  refine ⟨compared, Real64.nearest_mono, fun _ => compared.oneTrue, comparedAs_self_iff context a b,
    fun small => (comparedAs_self_iff context a b).mpr fun same => ?_⟩
  rcases small with left | right
  · exact Real64.eq_of_nearest_eq left same
  · exact (Real64.eq_of_nearest_eq right same.symm).symm

/-- The first integer that no double holds is taken for its neighbour. -/
theorem integers_compared_as_equal :
    let context : Context := ⟨⟨.default, .standard⟩, ⟨[]⟩⟩
    let a : Int64 := 9007199254740992
    let b : Int64 := 9007199254740993
    a.toInt < b.toInt ∧
      Gives ((Operator.compare .lt).apply context [.integer a, .integer b])
        (.ok (.boolean false)) ∧
      Gives ((Operator.equal ⟨.exact, none, true, true⟩).apply context [.integer a, .integer b])
        (.ok (.boolean true)) := by
  intro context a b
  have same : nearest a.toInt = nearest b.toInt := by decide +kernel
  have compared := comparedAs_nearest context a b
  rw [← same] at compared
  refine ⟨by decide, ?_, ?_⟩
  · simpa [NumericOrder.Relates] using compared.order .lt
  · simpa using compared.equal ⟨.exact, none, true, true⟩ rfl nofun

end Operator

end Assessment
