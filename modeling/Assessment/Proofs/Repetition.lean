import Assessment.Proofs.Gathering
import Assessment.Proofs.Run

/-!
# Repeated containers

`repeat` looks at the size of its result before it copies anything.  So the loops that copy
never push more scalars than the limit allows, however often the operands are to be
repeated.  Place by place the result is the operands' scalars in rotation, and repeating it
again is repeating them as often as both numbers together say.
-/

namespace Assessment

/-! ## Containers in rotation -/

namespace Container

/-- The scalars again and again. -/
def times (container : Container) (count : Nat) : Container :=
  { container with values := (List.replicate count container.values).flatten }

theorem size_times (container : Container) (count : Nat) :
    (container.times count).size = count * container.size := by
  rw [size, times, List.length_flatten, List.map_replicate, List.sum_replicate_nat, size]

theorem times_times (container : Container) (first second : Nat) :
    (container.times first).times second = container.times (second * first) := by
  simp only [times]
  congr 1
  induction second with
  | zero => rw [Nat.zero_mul]; rfl
  | succ second induction =>
      rw [List.replicate_succ, List.flatten_cons, induction, Nat.succ_mul, Nat.add_comm,
        List.replicate_add, List.flatten_append]

theorem getElem?_times {container : Container} {count i : Nat}
    (within : i < count * container.size) :
    (container.times count).values[i]? = container.values[i % container.size]? := by
  simp only [times, size] at within ⊢
  induction count generalizing i with
  | zero => omega
  | succ count induction =>
      rw [Nat.succ_mul] at within
      rw [List.replicate_succ, List.flatten_cons]
      rcases Nat.lt_or_ge i container.values.length with first | later
      · rw [List.getElem?_append_left first, Nat.mod_eq_of_lt first]
      · rw [List.getElem?_append_right later, induction (by omega), Nat.mod_eq_sub_mod later]

theorem times_ne_nil {container : Container} {count : Nat} (filled : container.values ≠ [])
    (positive : 0 < count) : (container.times count).values ≠ [] := by
  have more : 0 < (container.times count).size := by
    rw [size_times]
    exact Nat.mul_pos positive (List.length_pos_iff.mpr filled)
  exact List.ne_nil_of_length_pos more

end Container

/-! ## The loops -/

/-- How many turns loops have taken, and how many scalars they have pushed. -/
structure Effort where
  turns : Nat
  pushes : Nat
  deriving DecidableEq

/-- A computation whose effort is counted, also if it ends with an error. -/
abbrev Measured := ExceptT EvalError (StateM Effort)

namespace Collection

variable {operator : String} {operands : List Value} {container : Container}
  {scalar : Scalar} {scalars : List Scalar} {limit : Nat} {baseType : BaseType}

/-- `refuse` is how a scalar that is not accepted is reported. -/
def pushMeasured (refuse : ModelError → EvalError) (container : Container) (scalar : Scalar) :
    Measured Container := do
  modify fun effort => { effort with pushes := effort.pushes + 1 }
  ((container.push scalar).mapError refuse : Evaluated Container)

/-- One turn of the outer loop: the inner one copies all scalars. -/
def copyOnce (refuse : ModelError → EvalError) (scalars : List Scalar) (container : Container) :
    Measured Container := do
  modify fun effort => { effort with turns := effort.turns + 1 }
  scalars.foldlM (pushMeasured refuse) container

def copy (refuse : ModelError → EvalError) (scalars : List Scalar) :
    Nat → Container → Measured Container
  | 0, container => return container
  | count + 1, container => do
      let container ← copyOnce refuse scalars container
      copy refuse scalars count container

/-- Copies a container, unless the result would be too large. -/
def copyWithin (refuse : ModelError → EvalError) (limit count : Nat) (once : Container) :
    Measured Value :=
  let requested := min (count * once.size) greatestSize
  if limit < requested then throw (.containerTooLarge "repeat" requested limit)
  else do
    let container ← copy refuse once.values count (.empty once.baseType)
    return .ordered container

/-- `replicate` with its loops. -/
def replicateLoop (refuse : ModelError → EvalError) (limit : Nat) (count : Int64)
    (operands : List Value) : Measured Value :=
  if count.toInt < 1 then return .null
  else do
    match ← (gatherLoop refuse "repeat" operands : Evaluated (Option Container)) with
    | none => return .null
    | some once => copyWithin refuse limit count.toInt.toNat once

theorem run_foldlM_pushMeasured (refuse : ModelError → EvalError)
    (alike : ∀ scalar ∈ scalars, scalar.baseType = container.baseType) (effort : Effort) :
    (scalars.foldlM (pushMeasured refuse) container).run.run effort =
      (.ok (container.extend scalars), ⟨effort.turns, effort.pushes + scalars.length⟩) := by
  induction scalars generalizing container effort with
  | nil => rw [Container.extend_nil]; rfl
  | cons scalar scalars induction =>
      obtain ⟨here, later⟩ := List.forall_mem_cons.mp alike
      have pushed : (pushMeasured refuse container scalar).run.run effort =
          (.ok (container.extend [scalar]), ⟨effort.turns, effort.pushes + 1⟩) := by
        rw [pushMeasured, Container.push_eq_ok here]
        rfl
      have rest := @induction (container.extend [scalar]) later
        ⟨effort.turns, effort.pushes + 1⟩
      rw [Container.extend_extend, Nat.add_assoc, Nat.add_comm 1] at rest
      rw [List.foldlM_cons, run_run_bind, pushed]
      exact rest

theorem run_copyOnce (refuse : ModelError → EvalError)
    (alike : ∀ scalar ∈ scalars, scalar.baseType = container.baseType) (effort : Effort) :
    (copyOnce refuse scalars container).run.run effort =
      (.ok (container.extend scalars), ⟨effort.turns + 1, effort.pushes + scalars.length⟩) :=
  run_foldlM_pushMeasured refuse alike ⟨effort.turns + 1, effort.pushes⟩

/-- Each turn pushes every scalar once. -/
theorem run_copy (refuse : ModelError → EvalError) (count : Nat)
    (alike : ∀ scalar ∈ scalars, scalar.baseType = container.baseType) (effort : Effort) :
    (copy refuse scalars count container).run.run effort =
      (.ok (container.extend (List.replicate count scalars).flatten),
        ⟨effort.turns + count, effort.pushes + count * scalars.length⟩) := by
  induction count generalizing container effort with
  | zero => rw [Nat.zero_mul]; exact congrArg (Except.ok ·, effort) (Container.extend_nil _).symm
  | succ count induction =>
      have rest := @induction (container.extend scalars) alike
        ⟨effort.turns + 1, effort.pushes + scalars.length⟩
      rw [Container.extend_extend, ← List.flatten_cons, ← List.replicate_succ, Nat.add_assoc,
        Nat.add_comm 1, Nat.add_assoc, Nat.add_comm scalars.length, ← Nat.succ_mul] at rest
      rw [copy, run_run_bind, run_copyOnce refuse alike]
      exact rest

variable {once : Container} {count : Int64}

theorem replicate_of_gather (positive : 1 ≤ count.toInt)
    (found : gather "repeat" operands = .ok (some once)) :
    replicate limit count operands =
      let requested := min (count.toInt.toNat * once.size) greatestSize
      if limit < requested then .error (.containerTooLarge "repeat" requested limit)
      else .ok (.ordered (once.times count.toInt.toNat)) := by
  rw [replicate, if_neg (by omega), found]
  rfl

/-- If the result is too large, the loops are not entered. -/
theorem run_replicateLoop_of_gather (refuse : ModelError → EvalError)
    (wellFormed : ∀ operand ∈ operands, operand.WellFormed) (positive : 1 ≤ count.toInt)
    (found : gather "repeat" operands = .ok (some once)) :
    (replicateLoop refuse limit count operands).run.run ⟨0, 0⟩ =
      (replicate limit count operands,
        if limit < min (count.toInt.toNat * once.size) greatestSize then ⟨0, 0⟩
        else ⟨count.toInt.toNat, count.toInt.toNat * once.size⟩) := by
  have alike : ∀ scalar ∈ once.values,
      scalar.baseType = (Container.empty once.baseType).baseType :=
    homogeneous_of_gather wellFormed found
  have copied := run_copy refuse count.toInt.toNat alike ⟨0, 0⟩
  rw [Nat.zero_add, Nat.zero_add] at copied
  rw [replicate_of_gather positive found, replicateLoop, if_neg (by omega),
    gatherLoop_eq_gather refuse wellFormed, found]
  change (copyWithin refuse limit count.toInt.toNat once).run.run ⟨0, 0⟩ = _
  unfold copyWithin
  dsimp only
  split
  next => rfl
  next =>
    rw [run_run_bind, copied]
    rfl

/-- Whatever the operands are, the loops do what `replicate` says, and neither takes more
turns nor pushes more scalars than the limit: each turn of the outer loop pushes something,
because what was gathered is not empty. -/
theorem run_replicateLoop (refuse : ModelError → EvalError) (limited : limit < greatestSize)
    (count : Int64) (wellFormed : ∀ operand ∈ operands, operand.WellFormed) :
    ∃ effort : Effort,
      (replicateLoop refuse limit count operands).run.run ⟨0, 0⟩ =
        (replicate limit count operands, effort) ∧
      effort.turns ≤ effort.pushes ∧ effort.pushes ≤ limit := by
  have idle : (⟨0, 0⟩ : Effort).turns ≤ 0 ∧ 0 ≤ limit := ⟨Nat.le_refl _, Nat.zero_le _⟩
  by_cases positive : 1 ≤ count.toInt
  · cases found : gather "repeat" operands with
    | ok gathered =>
        cases gathered with
        | some once =>
            have filled : 0 < once.size := List.length_pos_iff.mpr (values_ne_nil found)
            refine ⟨_, run_replicateLoop_of_gather refuse wellFormed positive found, ?_⟩
            split
            next => exact idle
            next fits =>
              have within : count.toInt.toNat * once.size ≤ limit := by omega
              exact ⟨Nat.le_mul_of_pos_right _ filled, within⟩
        | none =>
            rw [replicateLoop, replicate, if_neg (by omega), if_neg (by omega),
              gatherLoop_eq_gather refuse wellFormed, found]
            exact ⟨⟨0, 0⟩, rfl, idle⟩
    | error error =>
        rw [replicateLoop, replicate, if_neg (by omega), if_neg (by omega),
          gatherLoop_eq_gather refuse wellFormed, found]
        exact ⟨⟨0, 0⟩, rfl, idle⟩
  · rw [replicateLoop, replicate, if_pos (by omega), if_pos (by omega)]
    exact ⟨⟨0, 0⟩, rfl, idle⟩

/-- Below the greatest size the saturated product is compared like the exact one. -/
theorem replicate_within (positive : 1 ≤ count.toInt)
    (found : gather "repeat" operands = .ok (some once))
    (within : count.toInt.toNat * once.size ≤ limit) :
    replicate limit count operands = .ok (.ordered (once.times count.toInt.toNat)) := by
  rw [replicate_of_gather positive found]
  exact if_neg (by omega)

theorem replicate_beyond (limited : limit < greatestSize) (positive : 1 ≤ count.toInt)
    (found : gather "repeat" operands = .ok (some once))
    (beyond : limit < count.toInt.toNat * once.size) :
    replicate limit count operands =
      .error (.containerTooLarge "repeat" (min (count.toInt.toNat * once.size) greatestSize)
        limit) := by
  rw [replicate_of_gather positive found]
  exact if_pos (by omega)

/-- What was repeated once is gathered again as it is. -/
theorem gather_ordered (filled : container.values ≠ []) :
    gather operator [.ordered container] = .ok (some container) := by
  have alone : part? (.ordered container) = some (container.baseType, container.values) :=
    part?_ofContainer true filled
  rw [gather_eq_foldlM, parts_eq_filterMap, List.filterMap_cons, alone, List.filterMap_nil,
    List.foldlM_cons, absorb_none]
  rfl

/-- Repeats operands, and then what this has given. -/
def replicateTwice (limit : Nat) (times count : Int64) (operands : List Value) :
    Evaluated Value := do
  let once ← replicate limit times operands
  replicate limit count [once]

theorem replicateTwice_of_within {times : Int64} (positive : 1 ≤ times.toInt)
    (found : gather "repeat" operands = .ok (some once))
    (within : times.toInt.toNat * once.size ≤ limit) :
    replicateTwice limit times count operands =
      replicate limit count [.ordered (once.times times.toInt.toNat)] := by
  rw [replicateTwice, replicate_within positive found within]
  rfl

theorem toNat_of_product {times product : Int64} (positive : 1 ≤ count.toInt)
    (more : 1 ≤ times.toInt) (exact : product.toInt = count.toInt * times.toInt) :
    product.toInt.toNat = count.toInt.toNat * times.toInt.toNat := by
  rw [exact, Int.toNat_mul (by omega) (by omega)]

/-- The first repetition has room if both together have. -/
theorem replicateTwice_within {times product : Int64} (positive : 1 ≤ count.toInt)
    (more : 1 ≤ times.toInt) (exact : product.toInt = count.toInt * times.toInt)
    (found : gather "repeat" operands = .ok (some once))
    (within : product.toInt.toNat * once.size ≤ limit) :
    replicateTwice limit times count operands = replicate limit product operands := by
  have factors := toNat_of_product positive more exact
  have productPositive : 1 ≤ product.toInt := by
    rw [exact]
    exact Int.mul_pos (by omega) (by omega)
  have again : gather "repeat" [.ordered (once.times times.toInt.toNat)] =
      .ok (some (once.times times.toInt.toNat)) :=
    gather_ordered (Container.times_ne_nil (values_ne_nil found) (by omega))
  have nested : count.toInt.toNat * (once.times times.toInt.toNat).size ≤ limit := by
    rwa [Container.size_times, ← Nat.mul_assoc, ← factors]
  have first : times.toInt.toNat * once.size ≤ limit := by
    rw [← Container.size_times]
    exact Nat.le_trans (Nat.le_mul_of_pos_left _ (by omega)) nested
  rw [replicateTwice_of_within more found first, replicate_within positive again nested,
    replicate_within productPositive found within, Container.times_times, factors]

/-- The first repetition is too large, or else the second one is. -/
theorem replicateTwice_beyond {times product : Int64} (limited : limit < greatestSize)
    (positive : 1 ≤ count.toInt) (more : 1 ≤ times.toInt)
    (exact : product.toInt = count.toInt * times.toInt)
    (found : gather "repeat" operands = .ok (some once))
    (beyond : limit < product.toInt.toNat * once.size) :
    ∃ requested, replicateTwice limit times count operands =
      .error (.containerTooLarge "repeat" requested limit) := by
  have again : gather "repeat" [.ordered (once.times times.toInt.toNat)] =
      .ok (some (once.times times.toInt.toNat)) :=
    gather_ordered (Container.times_ne_nil (values_ne_nil found) (by omega))
  rcases Nat.lt_or_ge limit (times.toInt.toNat * once.size) with early | first
  · rw [replicateTwice, replicate_beyond limited more found early]
    exact ⟨_, rfl⟩
  · have nested : limit < count.toInt.toNat * (once.times times.toInt.toNat).size := by
      rwa [Container.size_times, ← Nat.mul_assoc, ← toNat_of_product positive more exact]
    rw [replicateTwice_of_within more found first]
    exact ⟨_, replicate_beyond limited positive again nested⟩

/-- Operands of one base type that hold something are repeated in rotation if the limit
allows as many scalars, and are too large otherwise, also if no word holds their number.  The
loops take no more turns and push no more scalars than the limit.  Repeating twice is
repeating as often as both numbers together say. -/
theorem replicate_rotates (count : Int64)
    (shared : ∀ operand ∈ operands, operand.isNull = false → operand.baseType? = some baseType)
    (filled : contents operands ≠ []) (limited : limit < greatestSize)
    (positive : 1 ≤ count.toInt) :
    let values := contents operands
    let total := count.toInt.toNat * values.length
    (total ≤ limit →
      ∃ container, replicate limit count operands = .ok (.ordered container) ∧
        container.baseType = baseType ∧ container.size = total ∧
          ∀ i < total, container.values[i]? = values[i % values.length]?) ∧
      (limit < total →
        replicate limit count operands =
          .error (.containerTooLarge "repeat" (min total greatestSize) limit)) ∧
      (∀ refuse, (∀ operand ∈ operands, operand.WellFormed) →
        ∃ effort : Effort,
          (replicateLoop refuse limit count operands).run.run ⟨0, 0⟩ =
            (replicate limit count operands, effort) ∧
          effort.turns ≤ effort.pushes ∧ effort.pushes ≤ limit) ∧
      ∀ times product : Int64, 1 ≤ times.toInt → product.toInt = count.toInt * times.toInt →
        (product.toInt.toNat * values.length ≤ limit →
          replicateTwice limit times count operands = replicate limit product operands) ∧
        (limit < product.toInt.toNat * values.length →
          ∃ requested, replicateTwice limit times count operands =
            .error (.containerTooLarge "repeat" requested limit)) := by
  intro values total
  have found : gather "repeat" operands = .ok (some ⟨baseType, values⟩) :=
    gather_of_shared shared filled
  refine ⟨fun within => ⟨_, replicate_within positive found within, rfl, ?_, fun i small => ?_⟩,
    replicate_beyond limited positive found,
    fun refuse wellFormed => run_replicateLoop refuse limited count wellFormed,
    fun times product more exact => ⟨?_, ?_⟩⟩
  · exact Container.size_times _ _
  · exact Container.getElem?_times small
  · exact replicateTwice_within positive more exact found
  · exact replicateTwice_beyond limited positive more exact found

/-- Three scalars, twice twice: twelve are allowed or not, and as many as no word holds are
never copied. -/
theorem replicate_rotates_letters :
    let operands : List Value :=
      [.single (.identifier "A"), .string "",
        .ordered ⟨.identifier, [.identifier "B", .identifier "C"]⟩]
    let beyond : Int64 := 9223372036854775807
    let refuse : ModelError → EvalError := fun _ => .misapplied "repeat"
    (∀ operand ∈ operands, operand.isNull = false → operand.baseType? = some .identifier) ∧
      contents operands ≠ [] ∧ 12 < greatestSize ∧ 1 ≤ (2 : Int64).toInt ∧
      1 ≤ beyond.toInt ∧ (4 : Int64).toInt = (2 : Int64).toInt * (2 : Int64).toInt ∧
      replicateTwice 12 2 2 operands = replicate 12 4 operands ∧
      (∃ requested, replicateTwice 11 2 2 operands =
        .error (.containerTooLarge "repeat" requested 11)) ∧
      replicate 12 beyond operands = .error (.containerTooLarge "repeat" greatestSize 12) ∧
      ∃ effort : Effort,
        (replicateLoop refuse 12 4 operands).run.run ⟨0, 0⟩ = (replicate 12 4 operands, effort) ∧
          effort.turns ≤ effort.pushes ∧ effort.pushes ≤ 12 := by
  intro operands beyond refuse
  have shared : ∀ operand ∈ operands, operand.isNull = false →
      operand.baseType? = some .identifier := by decide
  have filled : contents operands ≠ [] := by decide
  have wellFormed : ∀ operand ∈ operands, operand.WellFormed := by
    simp [operands, Value.WellFormed, Container.Homogeneous, Scalar.baseType, Value.string]
  have twelve : 12 < greatestSize := by decide
  have eleven : 11 < greatestSize := by decide
  obtain ⟨_, _, _, twice⟩ := replicate_rotates 2 shared filled twelve (by decide)
  obtain ⟨_, _, _, less⟩ := replicate_rotates 2 shared filled eleven (by decide)
  obtain ⟨_, large, _⟩ := replicate_rotates beyond shared filled twelve (by decide)
  have length : (contents operands).length = 3 := rfl
  have saturated : min (beyond.toInt.toNat * 3) greatestSize = greatestSize := by decide
  rw [length, saturated] at large
  obtain ⟨_, _, effort, _⟩ := replicate_rotates 4 shared filled twelve (by decide)
  exact ⟨shared, filled, twelve, by decide, by decide, by decide,
    (twice 2 4 (by decide) (by decide)).1 (by decide),
    (less 2 4 (by decide) (by decide)).2 (by decide), large (by decide), effort refuse wellFormed⟩

end Collection

end Assessment
