import Assessment.Evaluation.Collection
import Assessment.Proofs.MachineWord

/-!
# Containers read by position

`index` reads a scalar at a position, and `contains` looks through the runs of a sequence
that are as long as another one.  Here the steps of both may fault, and none does.
-/

namespace Assessment

namespace Collection

/-- The position is counted from one, and zero is refused before one is subtracted. -/
def index? (container : Container) (position : Int64) : Option (Evaluated Value) :=
  if position.toInt < 1 then
    some (.error (.invalidAttribute "index" "n" (.belowOne position)))
  else
    (Word.long.hold? (position.toInt - 1)).map fun offset =>
      .ok (ofScalar? container.values[offset.toNat]?)

theorem index?_eq_some (container : Container) (position : Int64) :
    index? container position = some (index container position) := by
  unfold index? index
  split
  next => rfl
  next enough =>
    have holds : Word.long.Holds (position.toInt - 1) := by
      have bounds := Word.long_holds position
      simp only [Word.Holds, Word.long, Integer.least, Integer.greatest] at bounds ⊢
      omega
    have offset : (position.toInt - 1).toNat = position.toInt.toNat - 1 := by omega
    rw [Word.hold?_eq_some holds, Option.map_some, offset]

/-- The runs of a length in a list, in order. -/
def runs (length : Nat) : List Scalar → List (List Scalar)
  | [] => []
  | scalar :: rest =>
      if rest.length + 1 < length then []
      else (scalar :: rest).take length :: runs length rest

/-- Runs have a length; asking for runs of nothing is a fault. -/
def runs? (length : Nat) (scalars : List Scalar) : Option (List (List Scalar)) :=
  if length = 0 then none else some (runs length scalars)

def includesRun? (needle scalars : List Scalar) : Option Bool :=
  if needle.isEmpty then some true
  else (runs? needle.length scalars).map (·.any fun run => Container.listEqual run needle)

/-- Inclusion as in `contains`, with the runs listed. -/
def contains? (a b : Value) : Option (Evaluated Value) :=
  if a.baseType?.isSome ∧ a.baseType? = b.baseType? then
    match a, b with
    | .multiple bag, .multiple needle => some (.ok (.boolean (includesBag bag needle)))
    | .ordered sequence, .ordered needle =>
        (includesRun? needle.values sequence.values).map fun includes =>
          .ok (.boolean includes)
    | _, _ => some (.error (incomparable "contains" a b))
  else some (.error (incomparable "contains" a b))

theorem startsWith_eq_listEqual (needle scalars : List Scalar) :
    startsWith needle scalars = Container.listEqual (scalars.take needle.length) needle := by
  induction needle generalizing scalars with
  | nil => rw [List.length_nil, List.take_zero]; rfl
  | cons scalar needle induction =>
      cases scalars with
      | nil => rfl
      | cons first scalars =>
          rw [startsWith, induction, List.length_cons, List.take_succ_cons, Container.listEqual]

theorem length_le_of_startsWith {needle scalars : List Scalar}
    (starts : startsWith needle scalars = true) : needle.length ≤ scalars.length := by
  induction needle generalizing scalars with
  | nil => exact Nat.zero_le _
  | cons scalar needle induction =>
      cases scalars with
      | nil => cases starts
      | cons first scalars =>
          rw [startsWith, Bool.and_eq_true] at starts
          exact Nat.succ_le_succ (induction starts.2)

theorem length_le_of_includesRun {needle scalars : List Scalar}
    (includes : includesRun needle scalars = true) : needle.length ≤ scalars.length := by
  induction scalars with
  | nil =>
      rw [includesRun, List.isEmpty_iff] at includes
      exact Nat.le_of_eq (congrArg List.length includes)
  | cons scalar scalars induction =>
      rw [includesRun, Bool.or_eq_true] at includes
      rcases includes with here | later
      · exact length_le_of_startsWith here
      · exact Nat.le_succ_of_le (induction later)

theorem any_runs_eq_includesRun {needle : List Scalar} (nonempty : needle ≠ [])
    (scalars : List Scalar) :
    (runs needle.length scalars).any (fun run => Container.listEqual run needle) =
      includesRun needle scalars := by
  induction scalars with
  | nil =>
      rw [runs, includesRun, List.any_nil, List.isEmpty_eq_false_iff.mpr nonempty]
  | cons scalar scalars induction =>
      rw [runs]
      split
      next short =>
        refine (Bool.eq_false_iff.mpr fun includes => ?_).symm
        exact absurd (length_le_of_includesRun includes) (Nat.not_le_of_lt short)
      next => rw [List.any_cons, induction, includesRun, startsWith_eq_listEqual]

theorem includesRun?_eq_some (needle scalars : List Scalar) :
    includesRun? needle scalars = some (includesRun needle scalars) := by
  unfold includesRun? runs?
  split
  next empty =>
    rw [List.isEmpty_iff.mp empty]
    cases scalars <;> rfl
  next nonempty =>
    have some : needle ≠ [] := mt List.isEmpty_iff.mpr nonempty
    rw [if_neg (mt List.length_eq_zero_iff.mp some), Option.map_some,
      any_runs_eq_includesRun some]

theorem contains?_eq_some (a b : Value) : contains? a b = some (contains a b) := by
  unfold contains? contains
  split
  next =>
    cases a with
    | ordered sequence =>
        cases b with
        | ordered needle =>
            simp only [includesRun?_eq_some, Option.map_some]
        | _ => rfl
    | multiple bag => cases b <;> rfl
    | _ => rfl
  next => rfl

end Collection

end Assessment
