import Assessment.Proofs.Completions

/-!
# How the connectives fit together

`and` asks for as many true operands as there are, and `or` for at least one, so `anyN` can
say both.  `not` exchanges them.  Neither the order of the operands nor their repetition
matters, and operands may be grouped.
-/

namespace Assessment

namespace Truth

variable {operands others front run back : List Truth}

/-! ## Conjunction -/

theorem and_eq_false_iff : Truth.and operands = some false ↔ some false ∈ operands := by
  rw [and_eq]
  split
  next found => exact iff_of_true rfl found
  next absent => split <;> simp [absent]

theorem and_eq_none_iff :
    Truth.and operands = none ↔ some false ∉ operands ∧ none ∈ operands := by
  rw [and_eq]
  split
  next found => simp [found]
  next absent => split <;> simp_all

/-- The conjunction depends only on whether there are false operands and, without these, on
whether there are unknown ones. -/
theorem and_congr (sameFalse : some false ∈ operands ↔ some false ∈ others)
    (sameUnknown : some false ∉ others → (none ∈ operands ↔ none ∈ others)) :
    Truth.and operands = Truth.and others := by
  by_cases isFalse : some false ∈ others
  · rw [and_eq_false_iff.mpr isFalse, and_eq_false_iff.mpr (sameFalse.mpr isFalse)]
  · simp [and_eq, sameFalse, sameUnknown, isFalse]

theorem and_group :
    Truth.and (front ++ Truth.and run :: back) = Truth.and (front ++ run ++ back) := by
  have isFalse : some false ∈ [Truth.and run] ↔ some false ∈ run := by
    rw [List.mem_singleton, eq_comm, and_eq_false_iff]
  have isUnknown : none ∈ [Truth.and run] ↔ some false ∉ run ∧ none ∈ run := by
    rw [List.mem_singleton, eq_comm, and_eq_none_iff]
  rw [List.append_cons]
  refine and_congr ?_ fun absent => ?_
  · simp only [List.mem_append, isFalse]
  · simp only [List.mem_append, not_or] at absent ⊢
    simp only [isUnknown, absent.1.2, not_false_iff, true_and]

/-! ## Negation -/

theorem not_not (operand : Truth) : operand.not.not = operand := by
  rcases operand with _ | _ | _ <;> rfl

theorem map_not_not (operands : List Truth) :
    (operands.map Truth.not).map Truth.not = operands := by
  have same : Truth.not ∘ Truth.not = id := funext not_not
  rw [List.map_map, same, List.map_id]

theorem mem_map_not {truth : Truth} : truth ∈ operands.map Truth.not ↔ truth.not ∈ operands := by
  rw [List.mem_map]
  constructor
  · rintro ⟨operand, member, rfl⟩
    rwa [not_not]
  · intro member
    exact ⟨truth.not, member, not_not truth⟩

theorem not_or (operands : List Truth) :
    (Truth.or operands).not = Truth.and (operands.map Truth.not) := by
  have isTrue : some false ∈ operands.map Truth.not ↔ some true ∈ operands := mem_map_not
  have isUnknown : none ∈ operands.map Truth.not ↔ none ∈ operands := mem_map_not
  simp only [or_eq, and_eq, isTrue, isUnknown]
  split
  · rfl
  · split <;> rfl

theorem not_and (operands : List Truth) :
    (Truth.and operands).not = Truth.or (operands.map Truth.not) := by
  rw [← not_not (Truth.or _), not_or, map_not_not]

/-- The disjunction is the conjunction seen from the other side. -/
theorem or_eq_not_and (operands : List Truth) :
    Truth.or operands = (Truth.and (operands.map Truth.not)).not := by
  rw [← not_or, not_not]

/-! ## Counting -/

theorem length_eq_counts (operands : List Truth) :
    operands.length = trueCount operands + unknownCount operands + operands.count (some false) := by
  unfold trueCount unknownCount
  induction operands with
  | nil => rfl
  | cons operand operands induction => rcases operand with _ | _ | _ <;> simp <;> omega

theorem and_eq_anyN (operands : List Truth) :
    Truth.and operands = anyN operands.length operands.length operands := by
  have counts := length_eq_counts operands
  rw [and_eq]
  by_cases isFalse : some false ∈ operands
  · have positive := List.count_pos_iff.mpr isFalse
    rw [if_pos isFalse, anyN_eq_false_iff.mpr (by omega)]
  · have noFalse := List.count_eq_zero_of_not_mem isFalse
    rw [if_neg isFalse]
    by_cases isUnknown : none ∈ operands
    · have positive : 0 < unknownCount operands := List.count_pos_iff.mpr isUnknown
      rw [if_pos isUnknown, anyN_eq_none_iff.mpr (by omega)]
    · have noUnknown : unknownCount operands = 0 := List.count_eq_zero_of_not_mem isUnknown
      rw [if_neg isUnknown, anyN_eq_true_iff.mpr (by omega)]

theorem or_eq_anyN (operands : List Truth) :
    Truth.or operands = anyN 1 operands.length operands := by
  have counts := length_eq_counts operands
  rw [or_eq]
  by_cases isTrue : some true ∈ operands
  · have positive : 0 < trueCount operands := List.count_pos_iff.mpr isTrue
    rw [if_pos isTrue, anyN_eq_true_iff.mpr (by omega)]
  · have noTrue : trueCount operands = 0 := List.count_eq_zero_of_not_mem isTrue
    rw [if_neg isTrue]
    by_cases isUnknown : none ∈ operands
    · have positive : 0 < unknownCount operands := List.count_pos_iff.mpr isUnknown
      rw [if_pos isUnknown, anyN_eq_none_iff.mpr (by omega)]
    · have noUnknown : unknownCount operands = 0 := List.count_eq_zero_of_not_mem isUnknown
      rw [if_neg isUnknown, anyN_eq_false_iff.mpr (by omega)]

/-! ## Order, repetition and groups -/

theorem and_eq_of_mem_iff (same : ∀ truth, truth ∈ operands ↔ truth ∈ others) :
    Truth.and operands = Truth.and others :=
  and_congr (same _) fun _ => same _

theorem or_eq_of_mem_iff (same : ∀ truth, truth ∈ operands ↔ truth ∈ others) :
    Truth.or operands = Truth.or others := by
  rw [or_eq_not_and, or_eq_not_and]
  refine congrArg Truth.not (and_eq_of_mem_iff fun truth => ?_)
  rw [mem_map_not, mem_map_not, same]

theorem or_group : Truth.or (front ++ Truth.or run :: back) = Truth.or (front ++ run ++ back) := by
  rw [or_eq_not_and, or_eq_not_and (front ++ run ++ back)]
  simp only [List.map_append, List.map_cons, not_or, and_group]

end Truth

namespace Operator

variable {context : Context} {operands : List Truth} {operator : Operator}
  {connective : List Truth → Truth}

theorem answers_and (some : operands ≠ []) :
    Answers context .and operands (Truth.and operands) := by
  refine answers_of_compute some rfl ?_
  rw [compute, Value.map_truth_ofTruth]

theorem answers_or (some : operands ≠ []) :
    Answers context .or operands (Truth.or operands) := by
  refine answers_of_compute some rfl ?_
  rw [compute, Value.map_truth_ofTruth]

/-- An unknown operand does not reach the negation: it makes the result NULL before. -/
theorem answers_not (operand : Truth) : Answers context .not [operand] operand.not := by
  have admits : Operator.not.signature.Admits [Value.ofTruth operand] :=
    Signature.admits_exactly rfl (by simp [Value.admits_ofTruth])
  cases operand with
  | none =>
      rw [Answers, List.map_singleton, apply_eq_of_ne_random (by simp),
        Signature.check_eq_ok_iff.mpr admits]
      exact .bind (.ofEvaluated _) (.pure _)
  | some truth =>
      have filled : ∀ operand ∈ [Value.boolean truth], operand.isNull = false := by
        simp [Value.boolean, Value.isNull]
      exact apply_gives context (by simp) admits filled

theorem Answers.unique {first second : Truth} (answers : Answers context operator operands first)
    (alike : Answers context operator operands second) : first = second := by
  have same : Value.ofTruth first = Value.ofTruth second :=
    Except.ok.inj (Evaluation.Gives.unique answers alike)
  rw [← Value.truth_ofTruth first, same, Value.truth_ofTruth]

/-- The answer to a list of operands does not depend on their order, on how often they stand
in it or on how they are grouped. -/
structure Stable (context : Context) (operator : Operator) (operands : List Truth)
    (answer : Truth) : Prop where
  perm : ∀ permuted : List Truth, permuted.Perm operands → Answers context operator permuted answer
  repeated : ∀ front operand back, operands = front ++ operand :: back →
    Answers context operator (front ++ operand :: operand :: back) answer
  grouped : ∀ front run back, run ≠ [] → operands = front ++ run ++ back →
    ∃ part, Answers context operator run part ∧
      Answers context operator (front ++ part :: back) answer

theorem stable_of_answers (some : operands ≠ [])
    (answers : ∀ operands, operands ≠ [] → Answers context operator operands (connective operands))
    (ofMem : ∀ operands others : List Truth, (∀ truth, truth ∈ operands ↔ truth ∈ others) →
      connective operands = connective others)
    (group : ∀ front run back : List Truth,
      connective (front ++ connective run :: back) = connective (front ++ run ++ back)) :
    Stable context operator operands (connective operands) := by
  constructor
  · intro permuted perm
    rw [← ofMem permuted operands fun truth => perm.mem_iff]
    exact answers permuted fun none => some (List.nil_perm.mp (none ▸ perm))
  · rintro front operand back rfl
    rw [← ofMem (front ++ operand :: operand :: back) _ fun truth => by simp]
    exact answers _ (by simp)
  · rintro front run back nonempty rfl
    rw [← group]
    exact ⟨connective run, answers run nonempty, answers _ (by simp)⟩

theorem forall₂_answers_not (operands : List Truth) :
    List.Forall₂ (fun operand opposite => Answers context .not [operand] opposite) operands
      (operands.map Truth.not) := by
  rw [List.forall₂_map_right_iff]
  exact List.forall₂_same.mpr fun operand _ => answers_not operand

/-- For truth values as operands, of which there is at least one, `and` is `anyN` with the
number of operands as both bounds, and `or` is `anyN` from one up to that number; the
negation of each of them is the other one for the negated operands; and both are stable. -/
theorem connectives_agree (context : Context) (some : operands ≠ []) :
    ∃ conjunction disjunction : Truth,
      Answers context .and operands conjunction ∧
      Answers context .or operands disjunction ∧
      (∀ (size : Int64) (low high : Attribute Int64), size.toInt = operands.length →
        low.resolveInteger "anyN" "min" context.store = .ok size →
        high.resolveInteger "anyN" "max" context.store = .ok size →
        Answers context (.anyN low high) operands conjunction) ∧
      (∀ (size : Int64) (low high : Attribute Int64), size.toInt = operands.length →
        low.resolveInteger "anyN" "min" context.store = .ok 1 →
        high.resolveInteger "anyN" "max" context.store = .ok size →
        Answers context (.anyN low high) operands disjunction) ∧
      (∃ opposites : List Truth,
        List.Forall₂ (fun operand opposite => Answers context .not [operand] opposite) operands
          opposites ∧
        (∃ opposite, Answers context .not [conjunction] opposite ∧
          Answers context .or opposites opposite) ∧
        ∃ opposite, Answers context .not [disjunction] opposite ∧
          Answers context .and opposites opposite) ∧
      Stable context .and operands conjunction ∧
      Stable context .or operands disjunction := by
  have someOpposite : operands.map Truth.not ≠ [] := by simpa using some
  refine ⟨Truth.and operands, Truth.or operands, answers_and some, answers_or some, ?_, ?_,
    ⟨operands.map Truth.not, forall₂_answers_not operands, ?_, ?_⟩, ?_, ?_⟩
  · intro size low high counted lowHolds highHolds
    have answers := answers_anyN some lowHolds highHolds
    rwa [counted, ← Truth.and_eq_anyN] at answers
  · intro size low high counted lowHolds highHolds
    have answers := answers_anyN some lowHolds highHolds
    have one : (1 : Int64).toInt = 1 := rfl
    rwa [counted, one, ← Truth.or_eq_anyN] at answers
  · refine ⟨_, answers_not _, ?_⟩
    rw [Truth.not_and]
    exact answers_or someOpposite
  · refine ⟨_, answers_not _, ?_⟩
    rw [Truth.not_or]
    exact answers_and someOpposite
  · exact stable_of_answers some (fun _ => answers_and) (fun _ _ => Truth.and_eq_of_mem_iff)
      fun _ _ _ => Truth.and_group
  · exact stable_of_answers some (fun _ => answers_or) (fun _ _ => Truth.or_eq_of_mem_iff)
      fun _ _ _ => Truth.or_group

/-- A true, an unknown and a false operand: counted, negated, in another order and in
groups. -/
theorem connectives_agree_mixed :
    let context : Context := ⟨⟨.default, .standard⟩, ⟨[]⟩⟩
    let operands : List Truth := [some true, none, some false]
    operands ≠ [] ∧ (3 : Int64).toInt = operands.length ∧
      [none, some false, some true].Perm operands ∧
      Answers context .and operands (some false) ∧
      Answers context (.anyN (.literal 3) (.literal 3)) operands (some false) ∧
      Answers context .and [none, some false, some true] (some false) ∧
      Answers context .not [some false] (some true) ∧
      Answers context .or [some false, none, some true] (some true) ∧
      Answers context .or operands (some true) ∧
      Answers context (.anyN (.literal 1) (.literal 3)) operands (some true) ∧
      Answers context .or [none, some false] none ∧
      Answers context .or [some true, none] (some true) := by
  intro context operands
  have filled : operands ≠ [] := List.cons_ne_nil _ _
  have perm : [none, some false, some true].Perm operands := by decide
  obtain ⟨conjunction, disjunction, isAnd, isOr, counted, counted', negated, stable, stable'⟩ :=
    connectives_agree context filled
  obtain rfl : conjunction = some false := isAnd.unique (answers_and filled)
  obtain rfl : disjunction = some true := isOr.unique (answers_or filled)
  obtain ⟨opposites, opposite, ⟨answer, notAnd, orOpposites⟩, _⟩ := negated
  obtain rfl : answer = some true := notAnd.unique (answers_not (some false))
  have unique : Relator.RightUnique (fun operand opposite : Truth =>
      Answers context .not [operand] opposite) := fun _ _ _ first second => first.unique second
  obtain rfl : opposites = operands.map Truth.not :=
    unique.forall₂ opposite (forall₂_answers_not operands)
  obtain ⟨part, isPart, whole⟩ :=
    stable'.grouped [some true] [none, some false] [] (List.cons_ne_nil _ _) rfl
  obtain rfl : part = none := isPart.unique (answers_or (List.cons_ne_nil _ _))
  exact ⟨filled, rfl, perm, isAnd, counted 3 _ _ rfl rfl rfl, stable.perm _ perm, notAnd,
    orOpposites, isOr, counted' 3 _ _ rfl rfl rfl, isPart, whole⟩

end Operator

end Assessment
