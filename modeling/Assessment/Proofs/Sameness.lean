import Assessment.Value
import Mathlib.Data.List.Forall2

/-!
# When values are the same

Two scalars are the same if they are equal or one pair with its ends in either order; two
sequences if they are the same place by place; and two bags if the scalars of one can be
arranged so that they become the same sequence as those of the other.  `Value.equal`
decides this for all base types whose equality is exact: it counts in bags, and counting
sees an arrangement because sameness is an equivalence.
-/

namespace Assessment

/-! ## Counting up to an equivalence -/

/-- A test that is an equivalence among the items with a property. -/
structure EquivalenceOn {α : Type} (relevant : α → Prop) (same : α → α → Bool) : Prop where
  refl : ∀ {a}, relevant a → same a a
  symm : ∀ {a b}, relevant a → relevant b → same a b → same b a
  trans : ∀ {a b c}, relevant a → relevant b → relevant c → same a b → same b c → same a c

namespace EquivalenceOn

variable {α : Type} {relevant : α → Prop} {same : α → α → Bool} {a b c : α}

/-- Items that are the same are told apart by no third one. -/
theorem congr_left (equivalence : EquivalenceOn relevant same) (relevantA : relevant a)
    (relevantB : relevant b) (relevantC : relevant c) (sameAB : same a b) :
    same a c = same b c := by
  apply Bool.eq_iff_iff.mpr
  constructor
  · intro sameAC
    have sameBA := equivalence.symm relevantA relevantB sameAB
    exact equivalence.trans relevantB relevantA relevantC sameBA sameAC
  · intro sameBC
    exact equivalence.trans relevantA relevantB relevantC sameAB sameBC

theorem countP_eq_of_forall₂ (equivalence : EquivalenceOn relevant same)
    {left right : List α} (relevantLeft : ∀ a ∈ left, relevant a)
    (relevantRight : ∀ b ∈ right, relevant b) (relevantC : relevant c)
    (pairs : List.Forall₂ (fun a b => same a b = true) left right) :
    left.countP (same · c) = right.countP (same · c) := by
  induction pairs with
  | nil => rfl
  | @cons a b left right sameAB _ induction =>
      obtain ⟨relevantA, relevantLeft⟩ := List.forall_mem_cons.mp relevantLeft
      obtain ⟨relevantB, relevantRight⟩ := List.forall_mem_cons.mp relevantRight
      have alike := equivalence.congr_left relevantA relevantB relevantC sameAB
      have rest := induction relevantLeft relevantRight
      simp only [List.countP_cons, alike, rest]

/-- If every item of one list occurs at least as often in another list, then the other
list can be arranged so that it begins like the first one. -/
theorem exists_part (equivalence : EquivalenceOn relevant same) {needle bag : List α}
    (relevantNeedle : ∀ a ∈ needle, relevant a) (relevantBag : ∀ b ∈ bag, relevant b)
    (counts : ∀ a ∈ needle, needle.countP (same · a) ≤ bag.countP (same · a)) :
    ∃ part others, (part ++ others).Perm bag ∧
      List.Forall₂ (fun a b => same a b = true) needle part := by
  induction needle generalizing bag with
  | nil => exact ⟨[], bag, .refl bag, .nil⟩
  | cons a needle induction =>
      obtain ⟨relevantA, relevantRest⟩ := List.forall_mem_cons.mp relevantNeedle
      have sameAA := equivalence.refl relevantA
      -- the first item has a partner in the bag, since it counts itself in its own list
      have occurs : 0 < bag.countP (same · a) := by
        have itself : 0 < (a :: needle).countP (same · a) :=
          List.countP_pos_iff.mpr ⟨a, List.mem_cons_self, sameAA⟩
        exact Nat.lt_of_lt_of_le itself (counts a List.mem_cons_self)
      obtain ⟨b, memberB, sameBA⟩ := List.countP_pos_iff.mp occurs
      have relevantB := relevantBag b memberB
      obtain ⟨before, behind, rfl⟩ := List.append_of_mem memberB
      have moved : (before ++ b :: behind).Perm (b :: (before ++ behind)) := List.perm_middle
      have relevantOthers : ∀ other ∈ before ++ behind, relevant other := by
        intro other member
        exact relevantBag other (moved.mem_iff.mpr (List.mem_cons_of_mem b member))
      -- without the two partners everything still occurs at least as often
      have fewer : ∀ c ∈ needle,
          needle.countP (same · c) ≤ (before ++ behind).countP (same · c) := by
        intro c member
        have all := counts c (List.mem_cons_of_mem a member)
        have alike := equivalence.congr_left relevantB relevantA (relevantRest c member) sameBA
        rw [moved.countP_eq, List.countP_cons, List.countP_cons, alike] at all
        exact Nat.le_of_add_le_add_right all
      obtain ⟨part, others, permutation, pairs⟩ :=
        induction relevantRest relevantOthers fewer
      refine ⟨b :: part, others, ?_, .cons ?_ pairs⟩
      · exact (permutation.cons b).trans moved.symm
      · exact equivalence.symm relevantB relevantA sameBA

/-- What is arranged like a part of a list occurs in that list at least as often. -/
theorem countP_le_of_part (equivalence : EquivalenceOn relevant same)
    {needle bag part others : List α} (relevantNeedle : ∀ a ∈ needle, relevant a)
    (relevantBag : ∀ b ∈ bag, relevant b) (relevantC : relevant c)
    (permutation : (part ++ others).Perm bag)
    (pairs : List.Forall₂ (fun a b => same a b = true) needle part) :
    needle.countP (same · c) ≤ bag.countP (same · c) := by
  have relevantPart : ∀ b ∈ part, relevant b := by
    intro b member
    exact relevantBag b (permutation.mem_iff.mp (List.mem_append_left others member))
  calc needle.countP (same · c)
      = part.countP (same · c) :=
        equivalence.countP_eq_of_forall₂ relevantNeedle relevantPart relevantC pairs
    _ ≤ (part ++ others).countP (same · c) := by
        rw [List.countP_append]
        exact Nat.le_add_right _ _
    _ = bag.countP (same · c) := permutation.countP_eq _

/-- If every item of one list occurs equally often in another list of its length, then
the other list can be arranged like it. -/
theorem exists_arrangement (equivalence : EquivalenceOn relevant same) {left right : List α}
    (relevantLeft : ∀ a ∈ left, relevant a) (relevantRight : ∀ b ∈ right, relevant b)
    (sizes : left.length = right.length)
    (counts : ∀ a ∈ left, left.countP (same · a) = right.countP (same · a)) :
    ∃ arrangement, arrangement.Perm right ∧
      List.Forall₂ (fun a b => same a b = true) left arrangement := by
  obtain ⟨part, others, permutation, pairs⟩ :=
    equivalence.exists_part relevantLeft relevantRight fun a member =>
      Nat.le_of_eq (counts a member)
  have noOthers : others = [] := by
    have all := permutation.length_eq
    rw [List.length_append, ← sizes, ← pairs.length_eq] at all
    exact List.eq_nil_of_length_eq_zero (Nat.add_eq_left.mp all)
  rw [noOthers, List.append_nil] at permutation
  exact ⟨part, permutation, pairs⟩

end EquivalenceOn

namespace Container

/-- The test of bags finds out whether one can be arranged like the other. -/
theorem bagEqual_iff {relevant : Scalar → Prop}
    (equivalence : EquivalenceOn relevant Scalar.equal) {left right : Container}
    (relevantLeft : ∀ scalar ∈ left.values, relevant scalar)
    (relevantRight : ∀ scalar ∈ right.values, relevant scalar) :
    left.bagEqual right = true ↔
      left.baseType = right.baseType ∧
        ∃ arrangement, arrangement.Perm right.values ∧
          List.Forall₂ (fun a b : Scalar => a.equal b = true) left.values arrangement := by
  simp only [bagEqual, size, count, Bool.and_eq_true, beq_iff_eq, List.all_eq_true]
  constructor
  · rintro ⟨⟨baseTypes, sizes⟩, counts⟩
    exact ⟨baseTypes, equivalence.exists_arrangement relevantLeft relevantRight sizes counts⟩
  · rintro ⟨baseTypes, arrangement, permutation, pairs⟩
    have relevantArrangement : ∀ scalar ∈ arrangement, relevant scalar := by
      intro scalar member
      exact relevantRight scalar (permutation.mem_iff.mp member)
    refine ⟨⟨baseTypes, pairs.length_eq.trans permutation.length_eq⟩, fun scalar member => ?_⟩
    calc left.values.countP (Scalar.equal · scalar)
        = arrangement.countP (Scalar.equal · scalar) :=
          equivalence.countP_eq_of_forall₂ relevantLeft relevantArrangement
            (relevantLeft scalar member) pairs
      _ = right.values.countP (Scalar.equal · scalar) := permutation.countP_eq _

theorem listEqual_iff {left right : List Scalar} :
    listEqual left right = true ↔
      List.Forall₂ (fun a b : Scalar => a.equal b = true) left right := by
  induction left generalizing right with
  | nil => cases right <;> simp [listEqual]
  | cons a left induction => cases right <;> simp [listEqual, induction]

end Container

/-! ## Sameness -/

/-- The scalars are equal, where a pair has no first and second end. -/
inductive Scalar.Same : Scalar → Scalar → Prop where
  | refl (scalar : Scalar) : Same scalar scalar
  | swapped (first second : String) : Same (.pair first second) (.pair second first)

namespace Scalar

variable {a b c : Scalar}

theorem Same.symm (same : a.Same b) : b.Same a := by
  cases same with
  | refl => exact .refl _
  | swapped first second => exact .swapped second first

theorem Same.trans (sameAB : a.Same b) (sameBC : b.Same c) : a.Same c := by
  cases sameAB with
  | refl => exact sameBC
  | swapped first second =>
      cases sameBC with
      | refl => exact .swapped first second
      | swapped => exact .refl _

/-- Floats are left out: zeros of both signs are equal, and NaN is not equal to itself. -/
theorem equal_iff_same (exact : a.baseType ≠ .float) : a.equal b = true ↔ a.Same b := by
  constructor
  · intro equal
    cases a <;> cases b <;>
      simp only [Scalar.equal, beq_iff_eq, decide_eq_true_eq, Bool.and_eq_true, Bool.or_eq_true,
        Bool.false_eq_true] at equal
    case float.float => exact absurd rfl exact
    case pair.pair =>
      rcases equal with ⟨rfl, rfl⟩ | ⟨rfl, rfl⟩
      · exact .refl _
      · exact .swapped _ _
    case directedPair.directedPair =>
      obtain ⟨rfl, rfl⟩ := equal
      exact .refl _
    all_goals exact equal ▸ .refl _
  · intro same
    cases same with
    | swapped first second => simp [Scalar.equal]
    | refl =>
        cases a with
        | float value => exact absurd rfl exact
        | _ => simp [Scalar.equal]

theorem equivalenceOn_equal :
    EquivalenceOn (fun scalar => scalar.baseType ≠ .float) Scalar.equal where
  refl exact := (equal_iff_same exact).mpr (.refl _)
  symm exactA exactB equal :=
    (equal_iff_same exactB).mpr ((equal_iff_same exactA).mp equal).symm
  trans exactA exactB _ equalAB equalBC :=
    (equal_iff_same exactA).mpr
      (((equal_iff_same exactA).mp equalAB).trans ((equal_iff_same exactB).mp equalBC))

/-- Where equality is exact, lists that pair up by it pair up by sameness. -/
theorem forall₂_equal_iff {left right : List Scalar}
    (exact : ∀ scalar ∈ left, scalar.baseType ≠ .float) :
    List.Forall₂ (fun a b : Scalar => a.equal b = true) left right ↔
      List.Forall₂ Scalar.Same left right := by
  induction left generalizing right with
  | nil => simp
  | cons a left induction =>
      obtain ⟨exactA, exactRest⟩ := List.forall_mem_cons.mp exact
      simp only [List.forall₂_cons_left_iff, equal_iff_same exactA, induction exactRest]

end Scalar

/-- The values are single values, bags or sequences with the same contents: bags up to
the order of their scalars. -/
inductive Value.Same : Value → Value → Prop where
  | single {a b : Scalar} : a.Same b → Same (.single a) (.single b)
  | multiple {left right : Container} {arrangement : List Scalar} :
      left.baseType = right.baseType → arrangement.Perm right.values →
      List.Forall₂ Scalar.Same left.values arrangement →
      Same (.multiple left) (.multiple right)
  | ordered {left right : Container} :
      left.baseType = right.baseType → List.Forall₂ Scalar.Same left.values right.values →
      Same (.ordered left) (.ordered right)

/-- Values other than records are equal exactly if they are the same, where no scalar is
a float. -/
theorem Value.equal_iff_same {left right : Value} (cardinality : Cardinality)
    (notRecord : cardinality ≠ .record) (leftIs : left.cardinality? = some cardinality)
    (exactLeft : ∀ scalar ∈ left.scalars, scalar.baseType ≠ .float)
    (exactRight : ∀ scalar ∈ right.scalars, scalar.baseType ≠ .float) :
    left.equal right = true ↔ left.Same right := by
  cases left with
  | null => cases leftIs
  | record fields =>
      cases leftIs
      exact absurd rfl notRecord
  | single a =>
      cases right with
      | single b =>
          rw [Value.equal, Scalar.equal_iff_same (exactLeft a List.mem_cons_self)]
          constructor
          · intro same
            exact .single same
          · rintro ⟨same⟩
            exact same
      | _ => exact ⟨nofun, nofun⟩
  | multiple left =>
      cases right with
      | multiple right =>
          have exact : ∀ scalar ∈ left.values, scalar.baseType ≠ .float := exactLeft
          rw [Value.equal, Container.bagEqual_iff Scalar.equivalenceOn_equal exact exactRight]
          simp only [Scalar.forall₂_equal_iff exact]
          constructor
          · rintro ⟨baseTypes, arrangement, permutation, pairs⟩
            exact .multiple baseTypes permutation pairs
          · rintro (_ | ⟨baseTypes, permutation, pairs⟩)
            exact ⟨baseTypes, _, permutation, pairs⟩
      | _ => exact ⟨nofun, nofun⟩
  | ordered left =>
      cases right with
      | ordered right =>
          have exact : ∀ scalar ∈ left.values, scalar.baseType ≠ .float := exactLeft
          simp only [Value.equal, Container.sequenceEqual, Bool.and_eq_true, beq_iff_eq,
            Container.listEqual_iff, Scalar.forall₂_equal_iff exact]
          constructor
          · rintro ⟨baseTypes, pairs⟩
            exact .ordered baseTypes pairs
          · rintro (_ | _ | ⟨baseTypes, pairs⟩)
            exact ⟨baseTypes, pairs⟩
      | _ => exact ⟨nofun, nofun⟩

end Assessment
