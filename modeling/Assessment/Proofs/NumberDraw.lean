import Assessment.Proofs.FixedResult
import Assessment.Proofs.Guarded
import Assessment.Proofs.MachineArithmetic

/-!
# Random numbers

A random integer lies a whole number of steps above its lower bound and not above its upper
bound.  The drawn index alone decides which one it is, and each index is drawn from some
source.  The main statement is `Expression.randomInteger_draws`, for bounds and steps that
are literals or the values of variables.  A random float may be any double between its
bounds.
-/

namespace Assessment

namespace RandomSource

theorem exists_below? (last : Nat) (source : RandomSource) :
    ∃ index after, source.below? (last + 1) = some (index, after) ∧ index ≤ last := by
  have drawn : source.below? (last + 1) = some (_, _) := if_neg (Nat.succ_ne_zero last)
  exact ⟨_, _, drawn, Nat.le_of_lt_succ (below?_lt drawn)⟩

/-- Each number below a bound is drawn from some source. -/
theorem exists_source {bound index : Nat} (small : index < bound) :
    ∃ source after, below? bound source = some (index, after) := by
  refine ⟨⟨fun _ => index, fun _ low _ => low, 0⟩, ⟨fun _ => index, fun _ low _ => low, 1⟩, ?_⟩
  rw [below?, if_neg (Nat.ne_zero_of_lt small), Nat.mod_eq_of_lt small]

theorem exists_between? {low high : Float} (ordered : low ≤ high) (source : RandomSource) :
    ∃ x after, source.between? low high = some (x, after) ∧ low ≤ x ∧ x ≤ high := by
  rw [between?, if_pos ordered]
  by_cases inside : low ≤ source.proposal source.position low high ∧
      source.proposal source.position low high ≤ high
  · exact ⟨_, _, rfl, by rwa [if_pos inside]⟩
  · refine ⟨_, _, rfl, ?_⟩
    rw [if_neg inside]
    exact ⟨Real64.le_self_of_le ordered, ordered⟩

/-- Each double between two bounds is drawn from some source. -/
theorem exists_source_between {low high x : Float} (above : low ≤ x) (below : x ≤ high)
    (ordered : low ≤ high) : ∃ source after, between? low high source = some (x, after) := by
  refine ⟨⟨fun _ => 0, fun _ _ _ => x, 0⟩, ⟨fun _ => 0, fun _ _ _ => x, 1⟩, ?_⟩
  rw [between?, if_pos ordered]
  exact congrArg some (Prod.ext (if_pos ⟨above, below⟩) rfl)

end RandomSource

namespace Evaluation

variable {low high step : Int64} {index : Nat} {source after : RandomSource}

/-- The greatest number of steps that do not lead from the lower bound past the upper one. -/
def lastIndex (low high step : Int64) : Nat :=
  ((high.toInt - low.toInt) / step.toInt).toNat

/-- The draws are those of the integers from `low` in steps up to `high`: each index up to
the last one has its integer, and each such integer its index.  Wide words are enough for all
that is computed on the way. -/
structure DrawsSteps (low high step : Int64)
    (draw : RandomSource → Evaluated Value × RandomSource) : Prop where
  refused : ∀ source,
    (∃ name fault, (draw source).1 = .error (.invalidAttribute "randomInteger" name fault)) ↔
      step.toInt < 1 ∨ high.toInt < low.toInt
  withoutOverflow : ∀ source operator, (draw source).1 ≠ .error (.overflow operator)
  withoutFault : ∀ source,
    (Guarded.drawInteger low high step).run.run source = some (draw source)
  ofIndex : 1 ≤ step.toInt → low.toInt ≤ high.toInt → ∀ source,
    ∃ index after i, source.below? (lastIndex low high step + 1) = some (index, after) ∧
      index ≤ lastIndex low high step ∧ draw source = (.ok (.integer i), after) ∧
      i.toInt = low.toInt + index * step.toInt ∧ low.toInt ≤ i.toInt ∧ i.toInt ≤ high.toInt
  ofStep : 1 ≤ step.toInt → low.toInt ≤ high.toInt → ∀ k : Int,
    low.toInt ≤ low.toInt + k * step.toInt → low.toInt + k * step.toInt ≤ high.toInt →
      ∃ source after i,
        source.below? (lastIndex low high step + 1) = some (k.toNat, after) ∧
        draw source = (.ok (.integer i), after) ∧ i.toInt = low.toInt + k * step.toInt

/-- Every index belongs to an integer between the bounds. -/
theorem bounds_of_index (positive : 1 ≤ step.toInt) (ordered : low.toInt ≤ high.toInt)
    (small : index ≤ lastIndex low high step) :
    low.toInt ≤ low.toInt + index * step.toInt ∧
      low.toInt + index * step.toInt ≤ high.toInt := by
  have within : 0 ≤ index * step.toInt ∧ index * step.toInt ≤ high.toInt - low.toInt :=
    Guarded.bounds_of_steps (Int.lt_of_lt_of_le Int.zero_lt_one positive) ordered
      (Nat.lt_succ_of_le small)
  omega

/-- Every number of steps between the bounds is an index. -/
theorem le_lastIndex {k : Int} (positive : 1 ≤ step.toInt)
    (above : low.toInt ≤ low.toInt + k * step.toInt)
    (below : low.toInt + k * step.toInt ≤ high.toInt) :
    0 ≤ k ∧ k.toNat ≤ lastIndex low high step := by
  have pos : 0 < step.toInt := Int.lt_of_lt_of_le Int.zero_lt_one positive
  have nonneg : 0 ≤ k := by
    apply Int.not_lt.mp
    intro negative
    have down : k * step.toInt < 0 := Int.mul_neg_of_neg_of_pos negative pos
    omega
  have few : k ≤ (high.toInt - low.toInt) / step.toInt :=
    (Int.le_ediv_iff_mul_le pos).mpr (by omega)
  exact ⟨nonneg, Int.toNat_le_toNat few⟩

theorem holds_of_index (positive : 1 ≤ step.toInt) (ordered : low.toInt ≤ high.toInt)
    (small : index ≤ lastIndex low high step) :
    Word.long.Holds (low.toInt + index * step.toInt) := by
  obtain ⟨least, greatest⟩ := bounds_of_index positive ordered small
  exact ⟨Int.le_trans (Word.long_holds low).1 least,
    Int.le_trans greatest (Word.long_holds high).2⟩

/-- The integer of a drawn index. -/
theorem exists_drawn (positive : 1 ≤ step.toInt) (ordered : low.toInt ≤ high.toInt)
    (drawn : source.below? (lastIndex low high step + 1) = some (index, after)) :
    ∃ i : Int64, (drawInteger low high step).run.run source = (.ok (.integer i), after) ∧
      i.toInt = low.toInt + index * step.toInt := by
  have small : index ≤ lastIndex low high step :=
    Nat.le_of_lt_succ (RandomSource.below?_lt drawn)
  have holds := holds_of_index positive ordered small
  refine ⟨_, ?_, Integer.toInt_ofInt?_eq (if_pos (Word.fits_iff.mpr holds))⟩
  rw [lastIndex] at drawn
  rw [drawInteger, if_neg (Int.not_lt.mpr positive), if_neg (Int.not_lt.mpr ordered),
    run_run_bind, below, Guarded.run_take, drawn]
  dsimp only
  rw [Value.ofInteger?_eq_ok holds]
  rfl

theorem run_drawInteger_of_refused (refused : step.toInt < 1 ∨ high.toInt < low.toInt)
    (source : RandomSource) :
    ∃ name fault, (drawInteger low high step).run.run source =
      (.error (.invalidAttribute "randomInteger" name fault), source) := by
  unfold drawInteger
  by_cases still : step.toInt < 1
  · rw [if_pos still]
    exact ⟨_, _, rfl⟩
  · rw [if_neg still, if_pos (refused.resolve_left still)]
    exact ⟨_, _, rfl⟩

/-- Bounds and steps are either refused or give an integer from every source. -/
theorem run_drawInteger_cases (low high step : Int64) (source : RandomSource) :
    ((step.toInt < 1 ∨ high.toInt < low.toInt) ∧ ∃ name fault,
        (drawInteger low high step).run.run source =
          (.error (.invalidAttribute "randomInteger" name fault), source)) ∨
      ((1 ≤ step.toInt ∧ low.toInt ≤ high.toInt) ∧ ∃ index after i,
        source.below? (lastIndex low high step + 1) = some (index, after) ∧
        index ≤ lastIndex low high step ∧
        (drawInteger low high step).run.run source = (.ok (.integer i), after) ∧
        i.toInt = low.toInt + index * step.toInt) := by
  by_cases refused : step.toInt < 1 ∨ high.toInt < low.toInt
  · exact .inl ⟨refused, run_drawInteger_of_refused refused source⟩
  · have positive : 1 ≤ step.toInt := by omega
    have ordered : low.toInt ≤ high.toInt := by omega
    obtain ⟨index, after, drawn, small⟩ :=
      RandomSource.exists_below? (lastIndex low high step) source
    obtain ⟨i, run, value⟩ := exists_drawn positive ordered drawn
    exact .inr ⟨⟨positive, ordered⟩, index, after, i, drawn, small, run, value⟩

theorem drawsSteps_drawInteger (low high step : Int64) :
    DrawsSteps low high step (drawInteger low high step).run.run := by
  constructor
  case refused =>
    intro source
    rcases run_drawInteger_cases low high step source with
      ⟨refused, name, fault, run⟩ | ⟨⟨positive, ordered⟩, _, _, i, _, _, run, _⟩
    · rw [run]
      exact iff_of_true ⟨name, fault, rfl⟩ refused
    · rw [run]
      refine iff_of_false ?_ (by omega)
      rintro ⟨_, _, ⟨⟩⟩
  case withoutOverflow =>
    intro source operator overflow
    rcases run_drawInteger_cases low high step source with
      ⟨_, _, _, run⟩ | ⟨_, _, _, _, _, _, run, _⟩
    · rw [run] at overflow
      cases overflow
    · rw [run] at overflow
      cases overflow
  case withoutFault => exact Guarded.drawInteger_follows low high step
  case ofIndex =>
    intro positive ordered source
    rcases run_drawInteger_cases low high step source with
      ⟨refused, _⟩ | ⟨_, index, after, i, drawn, small, run, value⟩
    · omega
    · obtain ⟨least, greatest⟩ := bounds_of_index positive ordered small
      rw [← value] at least greatest
      exact ⟨index, after, i, drawn, small, run, value, least, greatest⟩
  case ofStep =>
    intro positive ordered k above below
    obtain ⟨nonneg, small⟩ := le_lastIndex positive above below
    obtain ⟨source, after, drawn⟩ := RandomSource.exists_source (Nat.lt_succ_of_le small)
    obtain ⟨i, run, value⟩ := exists_drawn positive ordered drawn
    rw [Int.toNat_of_nonneg nonneg] at value
    exact ⟨source, after, i, drawn, run, value⟩

end Evaluation

namespace Expression

/-- A random integer between bounds is one of those that lie a whole number of steps above
the lower bound, each of which can be drawn. -/
theorem randomInteger_draws {context : Context} {depth : Nat} {low high step : Attribute Int64}
    {least greatest width : Int64} (shallow : depth ≤ context.settings.maxExpressionDepth)
    (leastIs : low.resolveInteger "randomInteger" "min" context.store = .ok least)
    (greatestIs : high.resolveInteger "randomInteger" "max" context.store = .ok greatest)
    (widthIs : step.resolveInteger "randomInteger" "step" context.store = .ok width) :
    Evaluation.DrawsSteps least greatest width
      ((randomInteger low high step).evaluateAt context depth).run.run := by
  have check : context.checkDepth depth = .ok () := if_neg (Nat.not_lt.mpr shallow)
  have same : (randomInteger low high step).evaluateAt context depth =
      Evaluation.drawInteger least greatest width := by
    simp only [evaluateAt, leafValue, check, leastIs, greatestIs, widthIs]
    rfl
  rw [same]
  exact Evaluation.drawsSteps_drawInteger least greatest width

/-- A store with the greatest integer. -/
def greatestStore : Store :=
  ⟨[⟨"MAX", .single .integer, .template ⟨false, false⟩,
    .integer 9223372036854775807, .null⟩]⟩

/-- Between the least and the greatest integer there are three in the widest steps; the last
of them is two steps above the first. -/
theorem randomInteger_draws_extreme :
    let context : Context := ⟨⟨Settings.default, .standard⟩, greatestStore⟩
    let drawn := ((randomInteger (.literal (-9223372036854775808)) (.reference "MAX")
      (.literal 9223372036854775807)).evaluateAt context 1).run.run
    1 ≤ context.settings.maxExpressionDepth ∧
      Attribute.resolveInteger "randomInteger" "max" context.store (.reference "MAX") =
        .ok 9223372036854775807 ∧
      Evaluation.DrawsSteps (-9223372036854775808) 9223372036854775807 9223372036854775807
        drawn ∧
      ∃ source after, drawn source = (.ok (.integer 9223372036854775806), after) := by
  intro context drawn
  have shallow : 1 ≤ context.settings.maxExpressionDepth := by decide
  have resolved : Attribute.resolveInteger "randomInteger" "max" context.store
      (.reference "MAX") = .ok 9223372036854775807 := by decide +kernel
  have draws : Evaluation.DrawsSteps (-9223372036854775808) 9223372036854775807
      9223372036854775807 drawn :=
    randomInteger_draws shallow rfl resolved rfl
  obtain ⟨source, after, i, _, run, value⟩ :=
    draws.ofStep (by decide) (by decide) 2 (by decide) (by decide)
  obtain rfl : i = 9223372036854775806 := Int64.toInt_inj.mp value
  exact ⟨shallow, resolved, draws, source, after, run⟩

end Expression

/-! ## Random floats -/

namespace Evaluation

variable {low high x : Float}

theorem drawFloat_eq (finiteLow : low.isFinite = true) (finiteHigh : high.isFinite = true)
    (less : low < high) (finiteSpan : (high - low).isFinite = true) :
    drawFloat low high = do
      let drawn ← between low high
      return .float drawn := by
  rw [drawFloat, finiteLow, finiteHigh, finiteSpan, Real64.beq_of_lt less]
  exact if_neg (Real64.not_lt_of_lt finiteLow finiteHigh less)

/-- The random floats between two bounds are the doubles that lie there, both bounds
included. -/
theorem drawFloat_gives_iff (finiteLow : low.isFinite = true)
    (finiteHigh : high.isFinite = true) (less : low < high)
    (finiteSpan : (high - low).isFinite = true) :
    (∃ source, ((drawFloat low high).run.run source).1 = .ok (.float x)) ↔
      low ≤ x ∧ x ≤ high := by
  have ordered := Real64.le_of_lt less
  rw [drawFloat_eq finiteLow finiteHigh less finiteSpan]
  simp only [run_run_bind, between, Guarded.run_take]
  constructor
  · rintro ⟨source, given⟩
    obtain ⟨drawn, after, found, above, below⟩ := source.exists_between? ordered
    rw [found] at given
    cases given
    exact ⟨above, below⟩
  · rintro ⟨above, below⟩
    obtain ⟨source, after, found⟩ := RandomSource.exists_source_between above below ordered
    refine ⟨source, ?_⟩
    rw [found]
    rfl

end Evaluation

end Assessment
