import Assessment.Evaluation
import Assessment.Proofs.Double
import Assessment.Proofs.MachineWord
import Assessment.Proofs.Run

/-!
# Computations that may fault

A guarded computation stops with a fault where a partial operation is used outside of its
domain: where a list is read behind its end, a number is divided by zero, a word
overflows, or a number is drawn from an empty range.  A fault is neither a value nor an
error, and nothing goes on after it.  `Follows` says that a guarded computation does what
a plain evaluation does, and in particular that it does not fault.
-/

namespace Assessment

/-- Evaluations with faults, which are `none`. -/
abbrev Guarded := ExceptT EvalError (StateT RandomSource Option)

namespace Guarded

variable {α β : Type}

/-- An evaluation without partial operations. -/
def draw (evaluation : Evaluation α) : Guarded α :=
  ExceptT.mk fun source => some (evaluation.run.run source)

/-- A result without draws, or a fault. -/
def ofResult (result : Option (Evaluated α)) : Guarded α :=
  ExceptT.mk fun source => result.map fun result => (result, source)

/-- From every source the computation comes to an end without a fault, and it gives and
draws what the evaluation does. -/
def Follows (guarded : Guarded α) (evaluation : Evaluation α) : Prop :=
  ∀ source, guarded.run.run source = some (evaluation.run.run source)

namespace Follows

theorem pure (value : α) : Follows (Pure.pure value) (Pure.pure value) :=
  fun _ => rfl

theorem throw (error : EvalError) :
    Follows (α := α) (MonadExcept.throw error) (MonadExcept.throw error) :=
  fun _ => rfl

theorem draw (evaluation : Evaluation α) : Follows (draw evaluation) evaluation :=
  fun _ => rfl

theorem ofEvaluated (result : Evaluated α) :
    Follows (liftM result : Guarded α) (liftM result : Evaluation α) := by
  cases result with
  | ok value => exact pure value
  | error error => exact throw error

/-- After a result without draws only its value has to be looked at. -/
theorem bind_ofEvaluated {result : Evaluated α} {next : α → Guarded β}
    {rest : α → Evaluation β}
    (follows : ∀ value, result = .ok value → Follows (next value) (rest value)) :
    Follows ((liftM result : Guarded α) >>= next) ((liftM result : Evaluation α) >>= rest) := by
  cases result with
  | ok value => exact follows value rfl
  | error error => exact throw error

theorem bind_result {result : Evaluated α} {next : α → Guarded β} {rest : α → Evaluated β}
    (follows : ∀ value, Follows (next value) (liftM (rest value))) :
    Follows ((liftM result : Guarded α) >>= next) (liftM (result >>= rest)) := by
  cases result with
  | ok value => exact follows value
  | error error => exact throw error

theorem ofResult {result : Option (Evaluated α)} {plain : Evaluated α}
    (ends : result = some plain) : Follows (ofResult result) (liftM plain : Evaluation α) := by
  rw [ends]
  exact ofEvaluated plain

/-- What follows the first computation has to follow for its values only. -/
theorem bind_of_gives {first : Guarded α} {plain : Evaluation α} {next : α → Guarded β}
    {rest : α → Evaluation β} (follows : Follows first plain)
    (followsRest : ∀ value, (∃ source, (plain.run.run source).1 = .ok value) →
      Follows (next value) (rest value)) : Follows (first >>= next) (plain >>= rest) := by
  intro source
  rw [run_run_bind]
  have gives := followsRest
  rcases ended : plain.run.run source with ⟨result, after⟩
  have first : first source = some (result, after) := (follows source).trans (by rw [ended])
  simp only [bind, ExceptT.bind, ExceptT.mk, ExceptT.run, StateT.bind, StateT.run, first,
    Option.bind_some]
  cases result with
  | ok value => exact followsRest value ⟨source, by rw [ended]⟩ after
  | error error => rfl

theorem bind {first : Guarded α} {plain : Evaluation α} {next : α → Guarded β}
    {rest : α → Evaluation β} (follows : Follows first plain)
    (followsRest : ∀ value, Follows (next value) (rest value)) :
    Follows (first >>= next) (plain >>= rest) :=
  follows.bind_of_gives fun value _ => followsRest value

theorem ite {condition : Prop} [Decidable condition] {yes no : Guarded α}
    {plainYes plainNo : Evaluation α} (ifTrue : condition → Follows yes plainYes)
    (ifFalse : ¬condition → Follows no plainNo) :
    Follows (if condition then yes else no) (if condition then plainYes else plainNo) := by
  by_cases holds : condition
  · rw [if_pos holds, if_pos holds]
    exact ifTrue holds
  · rw [if_neg holds, if_neg holds]
    exact ifFalse holds

/-- A partial operation inside of its domain. -/
theorem of_some {operation : Option α} {result : α} {next : α → Guarded β}
    {evaluation : Evaluation β} (inside : operation = some result)
    (follows : Follows (next result) evaluation) :
    Follows ((liftM operation : Guarded α) >>= next) evaluation := by
  rw [inside]
  exact follows

end Follows

/-! ## Draws -/

/-- A number below a bound.  Below zero there is none. -/
def below (bound : Nat) : Guarded Nat :=
  if bound = 0 then ofResult none else draw (Evaluation.below bound)

theorem below_follows {bound : Nat} (nonempty : bound ≠ 0) :
    Follows (below bound) (Evaluation.below bound) := by
  rw [below, if_neg nonempty]
  exact .draw _

theorem run_take (draw? : RandomSource → Option (α × RandomSource)) (otherwise : α)
    (source : RandomSource) :
    (Evaluation.take draw? otherwise).run.run source =
      match draw? source with
      | some (drawn, after) => (.ok drawn, after)
      | none => (.ok otherwise, source) := by
  have got : (get : Evaluation RandomSource).run.run source = (.ok source, source) := rfl
  rw [Evaluation.take, run_run_bind, got]
  dsimp only
  cases draw? source <;> rfl

theorem lt_of_below {bound drawn : Nat} (nonempty : bound ≠ 0)
    (gives : ∃ source, ((Evaluation.below bound).run.run source).1 = .ok drawn) :
    drawn < bound := by
  obtain ⟨source, result⟩ := gives
  rw [Evaluation.below, run_take] at result
  cases found : source.below? bound with
  | none =>
      rw [found] at result
      cases result
      exact Nat.pos_of_ne_zero nonempty
  | some draw =>
      rw [found] at result
      cases result
      exact RandomSource.below?_lt found

/-- One of the scalars of a container, NULL if there are none. -/
def drawScalar (operand : Value) : Guarded Value := do
  let scalars := match operand.container? with
    | some container => container.values
    | none => []
  if scalars.isEmpty then return .null
  else
    let position ← below scalars.length
    let scalar ← scalars[position]?
    return .single scalar

theorem drawScalar_follows (operand : Value) :
    Follows (drawScalar operand) (Evaluation.drawScalar operand) := by
  unfold drawScalar Evaluation.drawScalar
  cases operand.container? with
  | none => exact .pure _
  | some container =>
      refine .ite (fun _ => .pure _) fun nonempty => ?_
      have some : container.values.length ≠ 0 := by
        rwa [ne_eq, List.length_eq_zero_iff, ← List.isEmpty_iff]
      refine (below_follows some).bind_of_gives fun position gives => ?_
      rw [List.getElem?_eq_getElem (lt_of_below some gives)]
      exact .of_some rfl (.pure _)

/-- One of the numbers from zero to the last one.  There is none if that is negative. -/
def upTo (last : Int) : Guarded Nat :=
  if last < 0 then ofResult none else below (last.toNat + 1)

/-- One of the numbers from `low` in steps up to `high`, in wide words. -/
def drawInteger (low high step : Int64) : Guarded Value := do
  let invalid := fun (name : String) (fault : AttributeFault) =>
    (.error (.invalidAttribute "randomInteger" name fault) : Evaluated Value)
  if step.toInt < 1 then invalid "step" (.notPositive step)
  else if high.toInt < low.toInt then
    invalid "max" (.belowMinimum (Integer.text high) (Integer.text low))
  else
    let span ← Word.wide.hold? (high.toInt - low.toInt)
    let steps ← Word.wide.quotient? span step.toInt
    let taken ← upTo steps
    let offset ← Word.wide.hold? (taken * step.toInt)
    let drawn ← Word.wide.hold? (low.toInt + offset)
    Value.ofInteger? "randomInteger" drawn

/-- Each number from `low` in steps up to `high` lies between them. -/
theorem bounds_of_steps {low high step : Int} {taken : Nat} (positive : 0 < step)
    (least : low ≤ high) (within : taken < ((high - low) / step).toNat + 1) :
    0 ≤ taken * step ∧ taken * step ≤ high - low := by
  have steps : 0 ≤ (high - low) / step :=
    Int.ediv_nonneg (by omega) (by omega)
  have few : (taken : Int) ≤ (high - low) / step := by omega
  refine ⟨Int.mul_nonneg (Int.natCast_nonneg taken) (by omega), ?_⟩
  exact Int.le_trans (Int.mul_le_mul_of_nonneg_right few (by omega))
    (Int.ediv_mul_le (high - low) (by omega))

theorem drawInteger_follows (low high step : Int64) :
    Follows (drawInteger low high step) (Evaluation.drawInteger low high step) := by
  have lowHolds := Word.long_holds low
  have highHolds := Word.long_holds high
  simp only [Word.Holds, Word.long, Integer.least, Integer.greatest] at lowHolds highHolds
  unfold drawInteger Evaluation.drawInteger
  refine .ite (fun _ => .ofEvaluated _) fun positive => ?_
  refine .ite (fun _ => .ofEvaluated _) fun ordered => ?_
  have span : Word.wide.Holds (high.toInt - low.toInt) := by
    simp only [Word.Holds, Word.wide]
    omega
  have steps : Word.wide.quotient? (high.toInt - low.toInt) step.toInt =
      some ((high.toInt - low.toInt) / step.toInt) := by
    rw [← Int.tdiv_eq_ediv_of_nonneg (by omega)]
    exact Word.quotient?_eq_some (by omega)
      (Word.holds_tdiv (by decide) span (by omega) (by omega))
  have nonneg : ¬(high.toInt - low.toInt) / step.toInt < 0 :=
    Int.not_lt.mpr (Int.ediv_nonneg (by omega) (by omega))
  refine .of_some (Word.hold?_eq_some span) (.of_some steps ?_)
  rw [upTo, if_neg nonneg]
  refine (below_follows (Nat.succ_ne_zero _)).bind_of_gives fun taken gives => ?_
  obtain ⟨least, greatest⟩ := bounds_of_steps (by omega) (by omega)
    (lt_of_below (Nat.succ_ne_zero _) gives)
  have offset : Word.wide.Holds (taken * step.toInt) := by
    simp only [Word.Holds, Word.wide]
    omega
  have drawn : Word.wide.Holds (low.toInt + taken * step.toInt) := by
    simp only [Word.Holds, Word.wide]
    omega
  exact .of_some (Word.hold?_eq_some offset)
    (.of_some (Word.hold?_eq_some drawn) (.ofEvaluated _))

/-- A double between two bounds.  A range that is empty or too wide has none. -/
def between (low high : Float) : Guarded Float :=
  if low ≤ high ∧ (high - low).isFinite then draw (Evaluation.between low high)
  else ofResult none

/-- A double from `low` to `high`. -/
def drawFloat (low high : Float) : Guarded Value := do
  let invalid := fun (name : String) (fault : AttributeFault) =>
    (.error (.invalidAttribute "randomFloat" name fault) : Evaluated Value)
  if !low.isFinite then invalid "min" (.notFinite (Real64.plainText low))
  else if !high.isFinite then invalid "max" (.notFinite (Real64.plainText high))
  else if high < low then
    invalid "max" (.belowMinimum (Real64.plainText high) (Real64.plainText low))
  else if !(high - low).isFinite then
    invalid "max" (.tooWide (Real64.plainText low) (Real64.plainText high))
  else if low == high then return .float low
  else
    let drawn ← between low high
    return .float drawn

theorem drawFloat_follows (low high : Float) :
    Follows (drawFloat low high) (Evaluation.drawFloat low high) := by
  unfold drawFloat Evaluation.drawFloat
  refine .ite (fun _ => .ofEvaluated _) fun finiteLow => ?_
  refine .ite (fun _ => .ofEvaluated _) fun finiteHigh => ?_
  refine .ite (fun _ => .ofEvaluated _) fun ordered => ?_
  refine .ite (fun _ => .ofEvaluated _) fun finiteSpan => ?_
  refine .ite (fun _ => .pure _) fun different => ?_
  have nonempty : low ≤ high :=
    Real64.le_of_not_lt (by simpa using finiteLow) (by simpa using finiteHigh) ordered
  have drawn : Follows (between low high) (Evaluation.between low high) := by
    rw [between, if_pos ⟨nonempty, by simpa using finiteSpan⟩]
    exact .draw _
  exact drawn.bind fun _ => .pure _

end Guarded

end Assessment
