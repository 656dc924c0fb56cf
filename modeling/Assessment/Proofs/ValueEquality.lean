import Assessment.Proofs.Double
import Assessment.Proofs.Sameness

/-!
# Which values are equal to each other

Equality of scalars is symmetric and transitive, and all scalars but NaN equal themselves.
So two bags without NaN are equal exactly if one can be arranged like the other.  NaN is
not counted in any bag: a bag in which NaN stands also equals bags with something else in
its place, and these do not equal it in turn.
-/

namespace Assessment

/-! ## Scalars -/

namespace Scalar

variable {a b c : Scalar}

def isNaN : Scalar → Bool
  | .float value => value.isNaN
  | _ => false

theorem equal_self_iff : a.equal a = true ↔ a.isNaN = false := by
  cases a with
  | float value => exact Real64.beq_self_iff
  | _ => simp [Scalar.equal, isNaN]

theorem baseType_eq_of_equal (equal : a.equal b = true) : a.baseType = b.baseType := by
  unfold Scalar.equal at equal
  split at equal
  case h_13 => cases equal
  all_goals rfl

theorem equal_symm (equal : a.equal b = true) : b.equal a = true := by
  have types := baseType_eq_of_equal equal
  by_cases float : a.baseType = .float
  · cases a <;> cases float
    cases b <;> cases types
    exact Real64.beq_symm equal
  · exact equivalenceOn_equal.symm float (types ▸ float) equal

theorem equal_trans (equalAB : a.equal b = true) (equalBC : b.equal c = true) :
    a.equal c = true := by
  have typesAB := baseType_eq_of_equal equalAB
  have typesBC := baseType_eq_of_equal equalBC
  by_cases float : a.baseType = .float
  · cases a <;> cases float
    cases b <;> cases typesAB
    cases c <;> cases typesBC
    exact Real64.beq_trans equalAB equalBC
  · have notFloat : b.baseType ≠ .float := typesAB ▸ float
    exact equivalenceOn_equal.trans float notFloat (typesBC ▸ notFloat) equalAB equalBC

/-- What equals anything equals itself. -/
theorem isNaN_of_equal (equal : a.equal b = true) : a.isNaN = false :=
  equal_self_iff.mp (equal_trans equal (equal_symm equal))

theorem equivalenceOn_comparable :
    EquivalenceOn (fun scalar => scalar.isNaN = false) Scalar.equal where
  refl comparable := equal_self_iff.mpr comparable
  symm _ _ equal := equal_symm equal
  trans _ _ _ equalAB equalBC := equal_trans equalAB equalBC

end Scalar

/-! ## Bags -/

namespace Container

variable {left right container : Container} {scalar : Scalar} {shared others : List Scalar}

/-- Bags without NaN are equal exactly if they have one base type and the scalars of one
are, in some order, equal to those of the other. -/
theorem bagEqual_iff_arrangement (comparableLeft : ∀ scalar ∈ left.values, scalar.isNaN = false)
    (comparableRight : ∀ scalar ∈ right.values, scalar.isNaN = false) :
    left.bagEqual right = true ↔
      left.baseType = right.baseType ∧
        ∃ arrangement, arrangement.Perm right.values ∧
          List.Forall₂ (fun a b : Scalar => a.equal b = true) left.values arrangement :=
  bagEqual_iff Scalar.equivalenceOn_comparable comparableLeft comparableRight

/-- Zeros of both signs count as one scalar. -/
theorem bagEqual_iff_arrangement_zeros :
    let left : Container := ⟨.float, [.float 0.0, .float 1.5, .float (-0.0)]⟩
    let right : Container := ⟨.float, [.float (-0.0), .float (-0.0), .float 1.5]⟩
    (∀ scalar ∈ left.values, scalar.isNaN = false) ∧
      (∀ scalar ∈ right.values, scalar.isNaN = false) ∧
      left.bagEqual right = true ∧
      left.baseType = right.baseType ∧
        ∃ arrangement, arrangement.Perm right.values ∧
          List.Forall₂ (fun a b : Scalar => a.equal b = true) left.values arrangement := by
  intro left right
  have comparableLeft : ∀ scalar ∈ left.values, scalar.isNaN = false := by decide +kernel
  have comparableRight : ∀ scalar ∈ right.values, scalar.isNaN = false := by decide +kernel
  have equal : left.bagEqual right = true := by decide +kernel
  exact ⟨comparableLeft, comparableRight, equal,
    (bagEqual_iff_arrangement comparableLeft comparableRight).mp equal⟩

/-- The scalars that equal themselves. -/
def comparable (container : Container) : List Scalar :=
  container.values.filter fun scalar => !scalar.isNaN

theorem isNaN_of_mem_comparable (member : scalar ∈ container.comparable) :
    scalar.isNaN = false := by
  simpa using (List.mem_filter.mp member).2

/-- Only scalars that equal themselves are counted. -/
theorem count_eq_countP_comparable :
    container.count scalar = container.comparable.countP (Scalar.equal · scalar) := by
  rw [comparable, List.countP_filter, count]
  refine List.countP_congr fun value _ => ?_
  simpa using Scalar.isNaN_of_equal

theorem count_of_isNaN (nan : scalar.isNaN = true) : container.count scalar = 0 := by
  refine List.countP_eq_zero.mpr fun value _ equal => ?_
  rw [Scalar.isNaN_of_equal (Scalar.equal_symm equal)] at nan
  exact Bool.false_ne_true nan

theorem bagEqual_iff_counts :
    left.bagEqual right = true ↔
      left.baseType = right.baseType ∧ left.size = right.size ∧
        ∀ scalar ∈ left.comparable, left.count scalar = right.count scalar := by
  simp only [bagEqual, Bool.and_eq_true, beq_iff_eq, List.all_eq_true, and_assoc]
  refine and_congr_right fun _ => and_congr_right fun _ => ⟨?_, ?_⟩
  · intro counts scalar member
    exact counts scalar (List.mem_of_mem_filter member)
  · intro counts scalar member
    by_cases nan : scalar.isNaN
    · rw [count_of_isNaN nan, count_of_isNaN nan]
    · exact counts scalar (List.mem_filter.mpr ⟨member, by simpa using nan⟩)

/-- If a part of the right bag is arranged like the left one, a scalar that is not NaN occurs
more often on the right by as much as it occurs among the others. -/
theorem count_eq_add (permutation : (shared ++ others).Perm right.comparable)
    (pairs : List.Forall₂ (fun a b : Scalar => a.equal b = true) left.comparable shared)
    (comparable : scalar.isNaN = false) :
    right.count scalar = left.count scalar + others.countP (Scalar.equal · scalar) := by
  have comparableShared : ∀ value ∈ shared, value.isNaN = false := by
    intro value member
    exact isNaN_of_mem_comparable (permutation.mem_iff.mp (List.mem_append_left _ member))
  have alike := Scalar.equivalenceOn_comparable.countP_eq_of_forall₂
    (fun _ => isNaN_of_mem_comparable) comparableShared comparable pairs
  rw [count_eq_countP_comparable, count_eq_countP_comparable, ← permutation.countP_eq,
    List.countP_append, alike]

/-- A bag equals another one if that one has the same scalars apart from NaN, and in the
place of NaN others that do not occur in the first one. -/
theorem bagEqual_iff_comparable :
    left.bagEqual right = true ↔
      left.baseType = right.baseType ∧ left.size = right.size ∧
        ∃ shared others, (shared ++ others).Perm right.comparable ∧
          List.Forall₂ (fun a b : Scalar => a.equal b = true) left.comparable shared ∧
          ∀ scalar ∈ others, left.contains scalar = false := by
  rw [bagEqual_iff_counts]
  refine and_congr_right fun _ => and_congr_right fun _ => ⟨?_, ?_⟩
  · intro counts
    have enough : ∀ scalar ∈ left.comparable,
        left.comparable.countP (Scalar.equal · scalar) ≤
          right.comparable.countP (Scalar.equal · scalar) := by
      intro scalar member
      rw [← count_eq_countP_comparable, ← count_eq_countP_comparable]
      exact Nat.le_of_eq (counts scalar member)
    obtain ⟨shared, others, permutation, pairs⟩ :=
      Scalar.equivalenceOn_comparable.exists_part (fun _ => isNaN_of_mem_comparable)
        (fun _ => isNaN_of_mem_comparable) enough
    refine ⟨shared, others, permutation, pairs, fun other memberOther => ?_⟩
    refine List.any_eq_false.mpr fun scalar member equal => ?_
    -- a scalar of the left bag that equals one of the others occurs more often on the right
    have comparable := Scalar.isNaN_of_equal equal
    have more := count_eq_add permutation pairs comparable
    rw [counts scalar (List.mem_filter.mpr ⟨member, by simpa using comparable⟩)] at more
    have none := List.countP_eq_zero.mp (Nat.left_eq_add.mp more)
    exact none other memberOther (Scalar.equal_symm equal)
  · rintro ⟨shared, others, permutation, pairs, strange⟩ scalar member
    have none : others.countP (Scalar.equal · scalar) = 0 := by
      refine List.countP_eq_zero.mpr fun other memberOther equal => ?_
      exact List.any_eq_false.mp (strange other memberOther) scalar
        (List.mem_of_mem_filter member) (Scalar.equal_symm equal)
    rw [count_eq_add permutation pairs (isNaN_of_mem_comparable member), none, Nat.add_zero]

/-- The right bag is the left one with some NaN replaced by scalars that do not occur in the
left one. -/
structure NaNReplaced (left right : Container) : Prop where
  baseType : left.baseType = right.baseType
  size : left.size = right.size
  replaced : ∃ shared others, (shared ++ others).Perm right.comparable ∧
    List.Forall₂ (fun a b : Scalar => a.equal b = true) left.comparable shared ∧
    others ≠ [] ∧ ∀ scalar ∈ others, left.contains scalar = false

/-- Equal bags are equal in turn unless there are others in the place of NaN. -/
theorem bagEqual_reverse_iff (equal : left.bagEqual right = true)
    (permutation : (shared ++ others).Perm right.comparable)
    (pairs : List.Forall₂ (fun a b : Scalar => a.equal b = true) left.comparable shared) :
    right.bagEqual left = true ↔ others = [] := by
  obtain ⟨baseTypes, sizes, _⟩ := bagEqual_iff_counts.mp equal
  constructor
  · intro reverse
    obtain ⟨_, _, part, rest, permutationLeft, pairsRight, _⟩ :=
      bagEqual_iff_comparable.mp reverse
    have fewer : right.comparable.length ≤ left.comparable.length := by
      rw [pairsRight.length_eq, ← permutationLeft.length_eq, List.length_append]
      exact Nat.le_add_right _ _
    rw [← permutation.length_eq, List.length_append, pairs.length_eq] at fewer
    exact List.eq_nil_of_length_eq_zero (by omega)
  · rintro rfl
    refine bagEqual_iff_counts.mpr ⟨baseTypes.symm, sizes.symm, fun scalar member => ?_⟩
    exact count_eq_add permutation pairs (isNaN_of_mem_comparable member)

theorem naNReplaced_iff :
    left.NaNReplaced right ↔ left.bagEqual right = true ∧ right.bagEqual left = false := by
  constructor
  · rintro ⟨baseType, size, shared, others, permutation, pairs, some, strange⟩
    have equal := bagEqual_iff_comparable.mpr
      ⟨baseType, size, shared, others, permutation, pairs, strange⟩
    refine ⟨equal, Bool.eq_false_iff.mpr fun reverse => ?_⟩
    exact some ((bagEqual_reverse_iff equal permutation pairs).mp reverse)
  · rintro ⟨equal, different⟩
    obtain ⟨baseType, size, shared, others, permutation, pairs, strange⟩ :=
      bagEqual_iff_comparable.mp equal
    refine ⟨baseType, size, shared, others, permutation, pairs, fun none => ?_, strange⟩
    rw [(bagEqual_reverse_iff equal permutation pairs).mpr none] at different
    exact Bool.false_ne_true different.symm

theorem sequenceEqual_symm (equal : left.sequenceEqual right = true) :
    right.sequenceEqual left = true := by
  simp only [sequenceEqual, Bool.and_eq_true, beq_iff_eq, listEqual_iff] at equal ⊢
  obtain ⟨baseTypes, pairs⟩ := equal
  exact ⟨baseTypes.symm, pairs.flip.imp fun _ _ => Scalar.equal_symm⟩

end Container

theorem Record.entriesEqual_symm {left right : List (String × Scalar)}
    (equal : entriesEqual left right = true) : entriesEqual right left = true := by
  induction left generalizing right with
  | nil => cases right with
      | nil => rfl
      | cons => cases equal
  | cons entry left induction =>
      cases right with
      | nil => cases equal
      | cons other right =>
          simp only [entriesEqual, Bool.and_eq_true, beq_iff_eq] at equal ⊢
          obtain ⟨⟨names, scalars⟩, rest⟩ := equal
          exact ⟨⟨names.symm, Scalar.equal_symm scalars⟩, induction rest⟩

/-! ## Values -/

namespace Value

/-- The values are bags, and the right one is the left one with some NaN replaced by scalars
that do not occur in the left one. -/
inductive NaNReplaced : Value → Value → Prop where
  | multiple {left right : Container} :
      left.NaNReplaced right → NaNReplaced (.multiple left) (.multiple right)

theorem naNReplaced_iff {a b : Value} :
    a.NaNReplaced b ↔ a.equal b = true ∧ b.equal a = false := by
  constructor
  · rintro ⟨replaced⟩
    exact Container.naNReplaced_iff.mp replaced
  · rintro ⟨equal, different⟩
    -- only for bags does the reverse not follow from the equality
    have notReverse : b.equal a ≠ true := Bool.eq_false_iff.mp different
    cases a <;> cases b <;> try exact absurd equal Bool.false_ne_true
    case null.null => exact absurd rfl notReverse
    case single.single => exact absurd (Scalar.equal_symm equal) notReverse
    case multiple.multiple => exact .multiple (Container.naNReplaced_iff.mpr ⟨equal, different⟩)
    case ordered.ordered => exact absurd (Container.sequenceEqual_symm equal) notReverse
    case record.record => exact absurd (Record.entriesEqual_symm equal) notReverse

/-- Equality of two values holds in both directions or in none, except that a bag with NaN
equals those that have something else in the place of NaN, while they do not equal it. -/
theorem equal_symmetric_iff (a b : Value) :
    (a.equal b = true ↔ b.equal a = true) ↔ ¬a.NaNReplaced b ∧ ¬b.NaNReplaced a := by
  rw [naNReplaced_iff, naNReplaced_iff]
  cases a.equal b <;> cases b.equal a <;> simp

/-- The bag of NaN equals that of one, which does not equal it. -/
theorem equal_not_symmetric :
    let nan : Value := .multiple ⟨.float, [.float Real64.nan]⟩
    let one : Value := .multiple ⟨.float, [.float 1.0]⟩
    ¬(nan.equal one = true ↔ one.equal nan = true) := by
  decide +kernel

end Value

end Assessment
