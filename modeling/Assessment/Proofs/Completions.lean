import Assessment.Proofs.FixedResult

/-!
# Unknown operands and what they may turn out to be

An unknown operand may turn out to be true or false.  `Completes` relates operands to the
booleans that they can turn out to be.  `anyN` decides as these do: it is true or false if
they all agree on that, and unknown if two of them disagree.  There is one exception: if no
number lies between the bounds, but the operands can have as few true ones as the one
allows and as many as the other asks for, then `anyN` is unknown, although it could be
false.
-/

namespace Assessment

open Evaluation (Gives)

namespace Truth

/-- The booleans that operands can turn out to be: known ones stay, and an unknown one
becomes any boolean. -/
inductive Completes : List Truth → List Bool → Prop where
  | nil : Completes [] []
  | known (truth : Bool) {operands : List Truth} {completion : List Bool} :
      Completes operands completion → Completes (some truth :: operands) (truth :: completion)
  | unknown (truth : Bool) {operands : List Truth} {completion : List Bool} :
      Completes operands completion → Completes (none :: operands) (truth :: completion)

/-- The number of true ones lies between the bounds. -/
def Between (least most : Int) (completion : List Bool) : Prop :=
  least ≤ completion.count true ∧ (completion.count true : Int) ≤ most

/-- No number lies between the bounds, but the operands can have as few true ones as the
upper bound allows, and they can have as many as the lower one asks for. -/
structure Crossed (least most : Int) (operands : List Truth) : Prop where
  empty : most < least
  few : ∃ completion, Completes operands completion ∧ (completion.count true : Int) ≤ most
  many : ∃ completion, Completes operands completion ∧ least ≤ (completion.count true : Int)

variable {operands : List Truth} {completion : List Bool} {least most : Int}

/-! ## How many operands can be true -/

theorem Completes.count_bounds (completes : Completes operands completion) :
    trueCount operands ≤ completion.count true ∧
      completion.count true ≤ trueCount operands + unknownCount operands := by
  unfold trueCount unknownCount
  induction completes with
  | nil => exact ⟨Nat.le_refl _, Nat.le_refl _⟩
  | known truth _ induction => cases truth <;> simp <;> omega
  | unknown truth _ induction => cases truth <;> simp <;> omega

/-- Every number from the known true operands up to all that are not false is the number of
true ones in some completion. -/
theorem exists_completes (operands : List Truth) (count : Nat)
    (enough : trueCount operands ≤ count)
    (possible : count ≤ trueCount operands + unknownCount operands) :
    ∃ completion, Completes operands completion ∧ completion.count true = count := by
  unfold trueCount unknownCount at *
  induction operands generalizing count with
  | nil => exact ⟨[], .nil, by simp at possible ⊢; omega⟩
  | cons operand operands induction =>
      match operand with
      | some true =>
          obtain ⟨completion, completes, counted⟩ :=
            induction (count - 1) (by simp at *; omega) (by simp at *; omega)
          exact ⟨true :: completion, .known true completes, by simp at *; omega⟩
      | some false =>
          obtain ⟨completion, completes, counted⟩ :=
            induction count (by simpa using enough) (by simpa using possible)
          exact ⟨false :: completion, .known false completes, by simpa using counted⟩
      | none =>
          -- the unknown operand is true only if all the others cannot make up the number
          by_cases full : count ≤ operands.count (some true) + operands.count none
          · obtain ⟨completion, completes, counted⟩ :=
              induction count (by simpa using enough) full
            exact ⟨false :: completion, .unknown false completes, by simpa using counted⟩
          · obtain ⟨completion, completes, counted⟩ :=
              induction (count - 1) (by simp at *; omega) (by simp at *; omega)
            exact ⟨true :: completion, .unknown true completes, by simp at *; omega⟩

theorem exists_fewest (operands : List Truth) :
    ∃ completion, Completes operands completion ∧ completion.count true = trueCount operands :=
  exists_completes operands _ (Nat.le_refl _) (Nat.le_add_right _ _)

theorem exists_greatest (operands : List Truth) :
    ∃ completion, Completes operands completion ∧
      completion.count true = trueCount operands + unknownCount operands :=
  exists_completes operands _ (Nat.le_add_right _ _) (Nat.le_refl _)

theorem forall_between_iff :
    (∀ completion, Completes operands completion → Between least most completion) ↔
      least ≤ trueCount operands ∧
        (trueCount operands + unknownCount operands : Int) ≤ most := by
  constructor
  · intro all
    obtain ⟨fewest, completes, counted⟩ := exists_fewest operands
    obtain ⟨greatest, completes', counted'⟩ := exists_greatest operands
    have lower := (all fewest completes).1
    have upper := (all greatest completes').2
    rw [counted] at lower
    rw [counted'] at upper
    exact ⟨lower, by simpa using upper⟩
  · rintro ⟨lower, upper⟩ completion completes
    obtain ⟨enough, possible⟩ := completes.count_bounds
    exact ⟨by omega, by omega⟩

theorem forall_not_between_iff :
    (∀ completion, Completes operands completion → ¬Between least most completion) ↔
      most < trueCount operands ∨ (trueCount operands + unknownCount operands : Int) < least ∨
        most < least := by
  constructor
  · intro none
    by_contra inside
    -- the least number that both the operands and the lower bound allow lies inside
    obtain ⟨completion, completes, counted⟩ :=
      exists_completes operands (max (trueCount operands) least.toNat) (by omega) (by omega)
    refine none completion completes ⟨?_, ?_⟩ <;> rw [counted] <;> omega
  · rintro outside completion completes ⟨lower, upper⟩
    obtain ⟨enough, possible⟩ := completes.count_bounds
    omega

theorem crossed_iff :
    Crossed least most operands ↔
      most < least ∧ trueCount operands ≤ most ∧
        least ≤ (trueCount operands + unknownCount operands : Int) := by
  constructor
  · rintro ⟨empty, ⟨few, completes, allowed⟩, many, completes', asked⟩
    have enough := completes.count_bounds.1
    have possible := completes'.count_bounds.2
    exact ⟨empty, by omega, by omega⟩
  · rintro ⟨empty, allowed, asked⟩
    obtain ⟨fewest, completes, counted⟩ := exists_fewest operands
    obtain ⟨greatest, completes', counted'⟩ := exists_greatest operands
    exact ⟨empty, ⟨fewest, completes, by omega⟩, greatest, completes', by omega⟩

/-! ## What `anyN` answers -/

theorem anyN_eq_true_iff :
    anyN least most operands = some true ↔
      least ≤ trueCount operands ∧
        (trueCount operands + unknownCount operands : Int) ≤ most := by
  unfold anyN
  dsimp only
  split
  · simp_all
    omega
  · simp_all

theorem anyN_eq_false_iff :
    anyN least most operands = some false ↔
      most < trueCount operands ∨
        (trueCount operands + unknownCount operands : Int) < least := by
  unfold anyN
  dsimp only
  split <;> simp_all

theorem anyN_eq_none_iff :
    anyN least most operands = none ↔
      (trueCount operands ≤ most ∧
        least ≤ (trueCount operands + unknownCount operands : Int)) ∧
        (trueCount operands < least ∨
          most < (trueCount operands + unknownCount operands : Int)) := by
  unfold anyN
  dsimp only
  split
  next outside =>
    simp_all
    omega
  next inside =>
    simp_all
    omega

/-- The answer is true or false if all completions agree on whether the number of true
operands lies between the bounds, and unknown if two of them disagree; but where the bounds
are crossed it is unknown instead of false. -/
structure Settles (least most : Int) (operands : List Truth) (answer : Truth) : Prop where
  true_iff : answer = some true ↔
    ∀ completion, Completes operands completion → Between least most completion
  false_iff : answer = some false ↔
    (∀ completion, Completes operands completion → ¬Between least most completion) ∧
      ¬Crossed least most operands
  none_iff : answer = none ↔
    (∃ inside outside, Completes operands inside ∧ Between least most inside ∧
      Completes operands outside ∧ ¬Between least most outside) ∨
      Crossed least most operands

theorem settles_anyN (least most : Int) (operands : List Truth) :
    Settles least most operands (anyN least most operands) := by
  have isTrue : anyN least most operands = some true ↔
      ∀ completion, Completes operands completion → Between least most completion :=
    anyN_eq_true_iff.trans forall_between_iff.symm
  have isFalse : anyN least most operands = some false ↔
      (∀ completion, Completes operands completion → ¬Between least most completion) ∧
        ¬Crossed least most operands := by
    rw [anyN_eq_false_iff, forall_not_between_iff, crossed_iff]
    omega
  refine ⟨isTrue, isFalse, ?_⟩
  have isNone : anyN least most operands = none ↔
      anyN least most operands ≠ some true ∧ anyN least most operands ≠ some false := by
    rcases anyN least most operands with _ | _ | _ <;> simp
  rw [isNone, Ne, Ne, isTrue, isFalse]
  constructor
  · rintro ⟨notAll, notNone⟩
    push Not at notAll notNone
    obtain ⟨outside, completesOutside, isOutside⟩ := notAll
    by_cases disagree : ∃ completion, Completes operands completion ∧ Between least most completion
    · obtain ⟨inside, completesInside, isInside⟩ := disagree
      exact .inl ⟨inside, outside, completesInside, isInside, completesOutside, isOutside⟩
    · apply Or.inr
      exact notNone fun completion completes within => disagree ⟨completion, completes, within⟩
  · rintro (⟨inside, outside, completesInside, isInside, completesOutside, isOutside⟩ | crossed)
    · exact ⟨fun all => isOutside (all outside completesOutside),
        fun none => none.1 inside completesInside isInside⟩
    · refine ⟨fun all => ?_, fun none => none.2 crossed⟩
      -- nothing lies between crossed bounds
      obtain ⟨few, completes, _⟩ := crossed.few
      have within := all few completes
      have empty := crossed.empty
      exact absurd (Int.le_trans within.1 within.2) (Int.not_le.mpr empty)

end Truth

/-! ## Truth values as operands -/

namespace Value

theorem truth_ofTruth (truth : Truth) : (ofTruth truth).truth = truth := by
  cases truth <;> rfl

theorem map_truth_ofTruth (operands : List Truth) :
    (operands.map ofTruth).map truth = operands := by
  have same : truth ∘ ofTruth = id := funext truth_ofTruth
  rw [List.map_map, same, List.map_id]

theorem admits_ofTruth (truth : Truth) :
    Accepts.Admits ⟨[.single], [.boolean]⟩ (ofTruth truth) := by
  cases truth with
  | none => exact nofun
  | some truth =>
      rintro cardinality ⟨rfl⟩
      exact ⟨List.mem_singleton_self _, .inr ⟨.boolean, List.mem_singleton_self _, rfl⟩⟩

end Value

namespace Operator

variable {context : Context} {operator : Operator} {operands : List Truth} {answer : Truth}

/-- For truth values as operands the operator gives a truth value. -/
def Answers (context : Context) (operator : Operator) (operands : List Truth) (answer : Truth) :
    Prop :=
  Gives (operator.apply context (operands.map .ofTruth)) (.ok (.ofTruth answer))

/-- Connectives of any number of operands treat unknown ones themselves. -/
theorem answers_of_compute (some : operands ≠ [])
    (signature : operator.signature = (Signature.atLeast 1 [⟨[.single], [.boolean]⟩]).handlingNull)
    (computes : operator.compute context.store context.settings.maxContainerSize
      (operands.map .ofTruth) = .ok (.ofTruth answer)) :
    Answers context operator operands answer := by
  have admits : operator.signature.Admits (operands.map .ofTruth) := by
    rw [signature]
    refine Signature.Admits.of_all rfl ?_ nofun ?_
    · rw [List.length_map]
      exact List.length_pos_iff.mpr some
    · simp [Value.admits_ofTruth]
  have different : operator ≠ .random := by rintro rfl; cases signature
  have handles : operator.signature.propagatesNull = false := by rw [signature]; rfl
  rw [Answers, apply_eq_of_ne_random different, Signature.check_eq_ok_iff.mpr admits, handles,
    computes]
  exact .bind (.ofEvaluated _) (.ofEvaluated _)

theorem answers_anyN {low high : Attribute Int64} {least most : Int64} (some : operands ≠ [])
    (lowHolds : low.resolveInteger "anyN" "min" context.store = .ok least)
    (highHolds : high.resolveInteger "anyN" "max" context.store = .ok most) :
    Answers context (.anyN low high) operands (Truth.anyN least.toInt most.toInt operands) := by
  refine answers_of_compute some rfl ?_
  simp only [compute, name, lowHolds, highHolds, Value.map_truth_ofTruth]
  rfl

/-- For bounds of 64 bits and truth values as operands, of which there is at least one,
`anyN` gives the answer on which all booleans agree that the operands can turn out to be,
and is unknown if they disagree.  Only where the bounds are crossed within reach of the
operands it is unknown instead of false. -/
theorem anyN_settles (context : Context) {low high : Attribute Int64} {least most : Int64}
    (some : operands ≠ [])
    (lowHolds : low.resolveInteger "anyN" "min" context.store = .ok least)
    (highHolds : high.resolveInteger "anyN" "max" context.store = .ok most) :
    ∃ answer, Answers context (.anyN low high) operands answer ∧
      Truth.Settles least.toInt most.toInt operands answer :=
  ⟨_, answers_anyN some lowHolds highHolds, Truth.settles_anyN _ _ _⟩

/-- Two unknown operands, of which the answer depends; the upper bound is the value of a
variable. -/
theorem anyN_settles_variable :
    let limit : Variable :=
      ⟨"LIMIT", .single .integer, .template ⟨false, false⟩, .integer 2, .null⟩
    let context : Context := ⟨⟨.default, .standard⟩, ⟨[limit]⟩⟩
    let operands : List Truth := [some true, none, some false, none]
    operands ≠ [] ∧
      (Attribute.literal 1).resolveInteger "anyN" "min" context.store = .ok 1 ∧
      (Attribute.reference "LIMIT").resolveInteger "anyN" "max" context.store = .ok 2 ∧
      ∃ answer, Answers context (.anyN (.literal 1) (.reference "LIMIT")) operands answer ∧
        Truth.Settles (1 : Int64).toInt (2 : Int64).toInt operands answer := by
  intro limit context operands
  have filled : operands ≠ [] := List.cons_ne_nil _ _
  exact ⟨filled, rfl, rfl, anyN_settles context filled rfl rfl⟩

/-- Between one and zero true operands there is nothing, so whatever an unknown operand
turns out to be, `anyN` should be false, but it is unknown. -/
theorem anyN_unknown_between_crossed :
    let context : Context := ⟨⟨.default, .standard⟩, ⟨[]⟩⟩
    (∀ completion, Truth.Completes [none] completion → ¬Truth.Between 1 0 completion) ∧
      Gives ((Operator.anyN (.literal 1) (.literal 0)).apply context [.null]) (.ok .null) := by
  intro context
  refine ⟨fun completion _ within => ?_, fun _ => rfl⟩
  have empty : (1 : Int) ≤ 0 := Int.le_trans within.1 within.2
  exact absurd empty (by decide)

end Operator

end Assessment
