import Assessment.Proofs.FixedResult
import Assessment.Proofs.NullOperand
import Assessment.Proofs.ValueEquality
import Mathlib.Data.List.Perm.Basic

/-!
# Containers within containers

`contains` asks whether a bag is a part of another one, or a sequence an unbroken run of
another one.  Up to equality this is an order: every container contains itself, what is
contained in a contained one is contained, and two containers contain each other exactly
if `match` finds them identical.
-/

namespace Assessment

/-- A list that is paired with two lists in succession is made of two parts. -/
theorem exists_of_forall₂_append {α β : Type} {relation : α → β → Prop} {first second : List α}
    {whole : List β} (pairs : List.Forall₂ relation (first ++ second) whole) :
    ∃ front back, whole = front ++ back ∧ List.Forall₂ relation first front ∧
      List.Forall₂ relation second back := by
  induction first generalizing whole with
  | nil => exact ⟨[], whole, rfl, .nil, pairs⟩
  | cons a first induction =>
      obtain ⟨b, rest, related, restPairs, rfl⟩ := List.forall₂_cons_left_iff.mp pairs
      obtain ⟨front, back, rfl, frontPairs, backPairs⟩ := induction restPairs
      exact ⟨b :: front, back, rfl, .cons related frontPairs, backPairs⟩

namespace Scalar

variable {left middle right : List Scalar}

theorem forall₂_equal_refl (comparable : ∀ scalar ∈ left, scalar.isNaN = false) :
    List.Forall₂ (fun a b : Scalar => a.equal b = true) left left :=
  List.forall₂_same.mpr fun scalar member => equal_self_iff.mpr (comparable scalar member)

theorem forall₂_equal_symm
    (pairs : List.Forall₂ (fun a b : Scalar => a.equal b = true) left right) :
    List.Forall₂ (fun a b : Scalar => a.equal b = true) right left :=
  pairs.flip.imp fun _ _ => equal_symm

theorem forall₂_equal_trans
    (first : List.Forall₂ (fun a b : Scalar => a.equal b = true) left middle)
    (second : List.Forall₂ (fun a b : Scalar => a.equal b = true) middle right) :
    List.Forall₂ (fun a b : Scalar => a.equal b = true) left right := by
  induction first generalizing right with
  | nil =>
      cases second
      exact .nil
  | cons equalAB _ induction =>
      cases second with
      | cons equalBC rest => exact .cons (equal_trans equalAB equalBC) (induction rest)

end Scalar

/-! ## Inclusion -/

/-- One value contains another one: its scalars are, up to equality, those of the other
one and some more, in any order in bags and around them in sequences. -/
inductive Value.Includes : Value → Value → Prop where
  | multiple {bag needle : Container} {part others : List Scalar} :
      (part ++ others).Perm bag.values →
      List.Forall₂ (fun a b : Scalar => a.equal b = true) needle.values part →
      Includes (.multiple bag) (.multiple needle)
  | ordered {sequence needle : Container} {before run behind : List Scalar} :
      sequence.values = before ++ run ++ behind →
      List.Forall₂ (fun a b : Scalar => a.equal b = true) needle.values run →
      Includes (.ordered sequence) (.ordered needle)

namespace Collection

theorem includesBag_iff {bag needle : Container}
    (comparableBag : ∀ scalar ∈ bag.values, scalar.isNaN = false)
    (comparableNeedle : ∀ scalar ∈ needle.values, scalar.isNaN = false) :
    includesBag bag needle = true ↔ (Value.multiple bag).Includes (.multiple needle) := by
  simp only [includesBag, List.all_eq_true, decide_eq_true_eq]
  constructor
  · intro counts
    obtain ⟨part, others, permutation, pairs⟩ :=
      Scalar.equivalenceOn_comparable.exists_part comparableNeedle comparableBag counts
    exact .multiple permutation pairs
  · rintro ⟨permutation, pairs⟩ scalar member
    exact Scalar.equivalenceOn_comparable.countP_le_of_part comparableNeedle comparableBag
      (comparableNeedle scalar member) permutation pairs

theorem startsWith_iff {needle list : List Scalar} :
    startsWith needle list = true ↔ ∃ run behind, list = run ++ behind ∧
      List.Forall₂ (fun a b : Scalar => a.equal b = true) needle run := by
  induction needle generalizing list with
  | nil => simp [startsWith]
  | cons a needle induction =>
      cases list with
      | nil => simp [startsWith]
      | cons b rest =>
          rw [startsWith, Bool.and_eq_true, induction]
          constructor
          · rintro ⟨equal, run, behind, rfl, pairs⟩
            exact ⟨b :: run, behind, rfl, .cons (Scalar.equal_symm equal) pairs⟩
          · rintro ⟨run, behind, split, pairs⟩
            obtain ⟨first, others, equal, otherPairs, rfl⟩ :=
              List.forall₂_cons_left_iff.mp pairs
            obtain ⟨rfl, rfl⟩ := List.cons.inj split
            exact ⟨Scalar.equal_symm equal, others, behind, rfl, otherPairs⟩

theorem includesRun_iff {needle list : List Scalar} :
    includesRun needle list = true ↔ ∃ before run behind, list = before ++ run ++ behind ∧
      List.Forall₂ (fun a b : Scalar => a.equal b = true) needle run := by
  induction list with
  | nil => cases needle <;> simp [includesRun]
  | cons scalar rest induction =>
      rw [includesRun, Bool.or_eq_true, startsWith_iff, induction]
      constructor
      · rintro (⟨run, behind, split, pairs⟩ | ⟨before, run, behind, rfl, pairs⟩)
        · exact ⟨[], run, behind, split, pairs⟩
        · exact ⟨scalar :: before, run, behind, rfl, pairs⟩
      · rintro ⟨before, run, behind, split, pairs⟩
        cases before with
        | nil => exact .inl ⟨run, behind, split, pairs⟩
        | cons first before =>
            obtain ⟨rfl, rfl⟩ := List.cons.inj split
            exact .inr ⟨before, run, behind, rfl, pairs⟩

end Collection

namespace Value

variable {a b c : Value}

theorem Includes.trans (includesAB : a.Includes b) (includesBC : b.Includes c) :
    a.Includes c := by
  cases includesAB with
  | @multiple bag middle part others permutation pairs =>
      cases includesBC with
      | @multiple _ needle inner rest arrangement innerPairs =>
          -- the part that is like the middle bag is arranged as that bag is divided
          obtain ⟨arranged, arrangedPairs, arrangedPart⟩ :=
            List.perm_comp_forall₂ arrangement pairs
          obtain ⟨front, back, rfl, frontPairs, _⟩ := exists_of_forall₂_append arrangedPairs
          have divided : (front ++ (back ++ others)).Perm bag.values := by
            rw [← List.append_assoc]
            exact (arrangedPart.append_right others).trans permutation
          exact .multiple divided (Scalar.forall₂_equal_trans innerPairs frontPairs)
  | @ordered sequence middle before run behind split pairs =>
      cases includesBC with
      | @ordered _ needle start inner stop innerSplit innerPairs =>
          rw [innerSplit] at pairs
          obtain ⟨front, back, rfl, frontPairs, _⟩ := exists_of_forall₂_append pairs
          obtain ⟨lead, found, rfl, _, foundPairs⟩ := exists_of_forall₂_append frontPairs
          have divided : sequence.values = (before ++ lead) ++ found ++ (back ++ behind) := by
            simp only [split, List.append_assoc]
          exact .ordered divided (Scalar.forall₂_equal_trans innerPairs foundPairs)

theorem Includes.length_le (includes : a.Includes b) : b.scalars.length ≤ a.scalars.length := by
  cases includes with
  | @multiple bag needle part others permutation pairs =>
      rw [scalars, scalars, ← permutation.length_eq, pairs.length_eq, List.length_append]
      exact Nat.le_add_right _ _
  | @ordered sequence needle before run behind split pairs =>
      rw [scalars, scalars, split, pairs.length_eq, List.length_append, List.length_append]
      omega

/-- Bags that contain each other have no scalars to spare, and so are equal. -/
theorem bagEqual_iff_includes {left right : Container} (baseTypes : left.baseType = right.baseType)
    (comparableLeft : ∀ scalar ∈ left.values, scalar.isNaN = false)
    (comparableRight : ∀ scalar ∈ right.values, scalar.isNaN = false) :
    left.bagEqual right = true ↔
      Includes (.multiple left) (.multiple right) ∧
        Includes (.multiple right) (.multiple left) := by
  rw [Container.bagEqual_iff Scalar.equivalenceOn_comparable comparableLeft comparableRight]
  constructor
  · rintro ⟨_, arrangement, permutation, pairs⟩
    obtain ⟨reverse, reversePairs, reversePermutation⟩ :=
      List.perm_comp_forall₂ permutation.symm (Scalar.forall₂_equal_symm pairs)
    rw [← List.append_nil arrangement] at permutation
    rw [← List.append_nil reverse] at reversePermutation
    exact ⟨.multiple reversePermutation reversePairs, .multiple permutation pairs⟩
  · rintro ⟨includesRight, includesLeft⟩
    have room := includesRight.length_le
    cases includesLeft with
    | @multiple _ _ part others permutation pairs =>
        rw [scalars, scalars, ← permutation.length_eq, pairs.length_eq, List.length_append] at room
        obtain rfl : others = [] := List.eq_nil_of_length_eq_zero (by omega)
        rw [List.append_nil] at permutation
        exact ⟨baseTypes, part, permutation, pairs⟩

theorem sequenceEqual_iff_includes {left right : Container}
    (baseTypes : left.baseType = right.baseType) :
    left.sequenceEqual right = true ↔
      Includes (.ordered left) (.ordered right) ∧ Includes (.ordered right) (.ordered left) := by
  simp only [Container.sequenceEqual, baseTypes, beq_self_eq_true, Bool.true_and,
    Container.listEqual_iff]
  constructor
  · intro pairs
    have whole (container : Container) : container.values = [] ++ container.values ++ [] := by
      rw [List.nil_append, List.append_nil]
    exact ⟨.ordered (whole left) (Scalar.forall₂_equal_symm pairs), .ordered (whole right) pairs⟩
  · rintro ⟨includesRight, includesLeft⟩
    have room := includesRight.length_le
    cases includesLeft with
    | @ordered _ _ before run behind split pairs =>
        rw [scalars, scalars, split, pairs.length_eq, List.length_append, List.length_append]
          at room
        obtain rfl : before = [] := List.eq_nil_of_length_eq_zero (by omega)
        obtain rfl : behind = [] := List.eq_nil_of_length_eq_zero (by omega)
        rw [List.nil_append, List.append_nil] at split
        exact split ▸ pairs

end Value

/-! ## Operators -/

instance (container : Container) : Decidable container.Homogeneous :=
  inferInstanceAs (Decidable (∀ scalar ∈ container.values, scalar.baseType = container.baseType))

/-- Containers of a base type for which values can be matched. -/
inductive DeclaredType.Matchable : DeclaredType → Prop where
  | multiple {baseType : BaseType} :
      baseType ∈ Accepts.matchable → Matchable (.multiple baseType)
  | ordered {baseType : BaseType} :
      baseType ∈ Accepts.matchable → Matchable (.ordered baseType)

/-- The value has the type and holds something. -/
structure Value.Filled (type : DeclaredType) (value : Value) : Prop where
  conforms : value.Conforms type
  notNull : value.isNull = false

theorem Scalar.isNaN_of_matchable {scalar : Scalar}
    (matchable : scalar.baseType ∈ Accepts.matchable) : scalar.isNaN = false := by
  cases scalar with
  | float value =>
      have noFloats : BaseType.float ∉ Accepts.matchable := by decide
      exact absurd matchable noFloats
  | _ => rfl

theorem Container.isNaN_of_matchable {container : Container}
    (matchable : container.baseType ∈ Accepts.matchable) (homogeneous : container.Homogeneous) :
    ∀ scalar ∈ container.values, scalar.isNaN = false := by
  intro scalar member
  exact Scalar.isNaN_of_matchable (homogeneous scalar member ▸ matchable)

namespace Value

variable {type : DeclaredType} {baseType : BaseType} {a b c value : Value}

theorem Filled.exists_bag (filled : value.Filled (.multiple baseType)) :
    ∃ container, value = .multiple container ∧ container.baseType = baseType ∧
      container.Homogeneous := by
  obtain ⟨conforms, notNull⟩ := filled
  cases value with
  | null => cases notNull
  | multiple container =>
      obtain ⟨types, homogeneous⟩ := conforms
      cases types
      exact ⟨container, rfl, rfl, homogeneous⟩
  | single | record => cases conforms
  | ordered => cases conforms.1

theorem Filled.exists_sequence (filled : value.Filled (.ordered baseType)) :
    ∃ container, value = .ordered container ∧ container.baseType = baseType ∧
      container.Homogeneous := by
  obtain ⟨conforms, notNull⟩ := filled
  cases value with
  | null => cases notNull
  | ordered container =>
      obtain ⟨types, homogeneous⟩ := conforms
      cases types
      exact ⟨container, rfl, rfl, homogeneous⟩
  | single | record => cases conforms
  | multiple => cases conforms.1

theorem Includes.refl (matchable : type.Matchable) (filled : a.Filled type) : a.Includes a := by
  cases matchable with
  | multiple listed =>
      obtain ⟨bag, rfl, rfl, homogeneous⟩ := filled.exists_bag
      have comparable := Container.isNaN_of_matchable listed homogeneous
      exact .multiple (.of_eq (List.append_nil _)) (Scalar.forall₂_equal_refl comparable)
  | ordered listed =>
      obtain ⟨sequence, rfl, rfl, homogeneous⟩ := filled.exists_sequence
      have comparable := Container.isNaN_of_matchable listed homogeneous
      have whole : sequence.values = [] ++ sequence.values ++ [] := (List.append_nil _).symm
      exact .ordered whole (Scalar.forall₂_equal_refl comparable)

theorem contains_decides (matchable : type.Matchable) (filledA : a.Filled type)
    (filledB : b.Filled type) :
    ∃ answer, Collection.contains a b = .ok (.boolean answer) ∧
      (answer = true ↔ a.Includes b) := by
  cases matchable with
  | multiple listed =>
      obtain ⟨bag, rfl, rfl, homogeneousBag⟩ := filledA.exists_bag
      obtain ⟨needle, rfl, sameType, homogeneousNeedle⟩ := filledB.exists_bag
      have comparableBag := Container.isNaN_of_matchable listed homogeneousBag
      have comparableNeedle :=
        Container.isNaN_of_matchable (sameType ▸ listed) homogeneousNeedle
      refine ⟨_, ?_, Collection.includesBag_iff comparableBag comparableNeedle⟩
      simp [Collection.contains, baseType?, sameType]
  | ordered listed =>
      obtain ⟨sequence, rfl, rfl, _⟩ := filledA.exists_sequence
      obtain ⟨needle, rfl, sameType, _⟩ := filledB.exists_sequence
      refine ⟨Collection.includesRun needle.values sequence.values, ?_, ?_⟩
      · simp [Collection.contains, baseType?, sameType]
      · rw [Collection.includesRun_iff]
        constructor
        · rintro ⟨before, run, behind, split, pairs⟩
          exact .ordered split pairs
        · rintro (_ | ⟨split, pairs⟩)
          exact ⟨_, _, _, split, pairs⟩

theorem identical_decides (matchable : type.Matchable) (filledA : a.Filled type)
    (filledB : b.Filled type) :
    ∃ answer, Comparison.identical a b = .ok (.boolean answer) ∧
      (answer = true ↔ a.Includes b ∧ b.Includes a) := by
  cases matchable with
  | multiple listed =>
      obtain ⟨left, rfl, rfl, homogeneousLeft⟩ := filledA.exists_bag
      obtain ⟨right, rfl, sameType, homogeneousRight⟩ := filledB.exists_bag
      have comparableLeft := Container.isNaN_of_matchable listed homogeneousLeft
      have comparableRight :=
        Container.isNaN_of_matchable (sameType ▸ listed) homogeneousRight
      refine ⟨_, ?_, bagEqual_iff_includes sameType.symm comparableLeft comparableRight⟩
      simp [Comparison.identical, cardinality?, baseType?, sameType, equal]
  | ordered listed =>
      obtain ⟨left, rfl, rfl, _⟩ := filledA.exists_sequence
      obtain ⟨right, rfl, sameType, _⟩ := filledB.exists_sequence
      refine ⟨_, ?_, sequenceEqual_iff_includes sameType.symm⟩
      simp [Comparison.identical, cardinality?, baseType?, sameType, equal]

theorem Filled.admits (matchable : type.Matchable) (filled : value.Filled type)
    {cardinalities : List Cardinality} (containers : Accepts.containers ⊆ cardinalities) :
    Accepts.Admits ⟨cardinalities, Accepts.matchable⟩ value := by
  cases matchable with
  | multiple listed =>
      obtain ⟨bag, rfl, rfl, _⟩ := filled.exists_bag
      rintro _ ⟨rfl⟩
      exact ⟨containers (by decide), .inr ⟨_, listed, rfl⟩⟩
  | ordered listed =>
      obtain ⟨sequence, rfl, rfl, _⟩ := filled.exists_sequence
      rintro _ ⟨rfl⟩
      exact ⟨containers (by decide), .inr ⟨_, listed, rfl⟩⟩

end Value

namespace Operator

variable {operator : Operator} {context : Context} {type : DeclaredType} {a b c : Value}

/-- The operator answers that it holds of two operands. -/
def Affirms (context : Context) (operator : Operator) (a b : Value) : Prop :=
  operator.apply context [a, b] = pure (.boolean true)

/-- The operator answers that it does not hold of two operands. -/
def Denies (context : Context) (operator : Operator) (a b : Value) : Prop :=
  operator.apply context [a, b] = pure (.boolean false)

/-- Operators on matchable containers accept them and compute. -/
theorem apply_eq_pure {cardinalities : List Cardinality} {value : Value}
    (different : operator ≠ .random)
    (signature : operator.signature = .exactly 2 [⟨cardinalities, Accepts.matchable⟩])
    (containers : Accepts.containers ⊆ cardinalities) (matchable : type.Matchable)
    (filledA : a.Filled type) (filledB : b.Filled type)
    (computed : operator.compute context.store context.settings.maxContainerSize [a, b] =
      .ok value) :
    operator.apply context [a, b] = pure value := by
  have admits : operator.signature.Admits [a, b] := by
    rw [signature]
    refine Signature.admits_exactly rfl ?_
    simp [filledA.admits matchable containers, filledB.admits matchable containers]
  have gives := apply_gives context different admits (by simp [filledA.notNull, filledB.notNull])
  rw [computed] at gives
  exact gives.eq (.pure value)

theorem affirms_iff_of_apply {answer : Bool}
    (applied : operator.apply context [a, b] = pure (.boolean answer)) :
    operator.Affirms context a b ↔ answer = true := by
  constructor
  · intro affirms
    have same := congrArg (fun evaluation => (evaluation.run.run (.ofSeed 0)).1)
      (applied.symm.trans affirms)
    cases same
    rfl
  · rintro rfl
    exact applied

theorem affirms_or_denies_of_apply {answer : Bool}
    (applied : operator.apply context [a, b] = pure (.boolean answer)) :
    operator.Affirms context a b ∨ operator.Denies context a b := by
  cases answer with
  | true => exact .inl applied
  | false => exact .inr applied

theorem exists_apply_contains (context : Context) (matchable : type.Matchable)
    (filledA : a.Filled type) (filledB : b.Filled type) :
    ∃ answer, Operator.contains.apply context [a, b] = pure (.boolean answer) ∧
      (answer = true ↔ a.Includes b) := by
  obtain ⟨answer, computed, decides⟩ := Value.contains_decides matchable filledA filledB
  exact ⟨answer, apply_eq_pure nofun rfl (List.Subset.refl _) matchable filledA filledB computed,
    decides⟩

theorem exists_apply_identical (context : Context) (matchable : type.Matchable)
    (filledA : a.Filled type) (filledB : b.Filled type) :
    ∃ answer, Operator.identical.apply context [a, b] = pure (.boolean answer) ∧
      (answer = true ↔ a.Includes b ∧ b.Includes a) := by
  obtain ⟨answer, computed, decides⟩ := Value.identical_decides matchable filledA filledB
  exact ⟨answer, apply_eq_pure nofun rfl (List.subset_cons_self _ _) matchable filledA filledB
    computed, decides⟩

/-- Among filled containers of one matchable type, `contains` holds exactly of a container
and a part or run of it.  It is an order up to equality: reflexive, transitive, and true in
both directions exactly if `match` is.  Both operators always answer. -/
theorem contains_order (context : Context) (matchable : type.Matchable)
    (filledA : a.Filled type) (filledB : b.Filled type) (filledC : c.Filled type) :
    (Affirms context .contains a b ↔ a.Includes b) ∧
      Affirms context .contains a a ∧
      (Affirms context .contains a b → Affirms context .contains b c →
        Affirms context .contains a c) ∧
      (Affirms context .contains a b ∧ Affirms context .contains b a ↔
        Affirms context .identical a b) ∧
      (Affirms context .contains a b ∨ Denies context .contains a b) ∧
      (Affirms context .identical a b ∨ Denies context .identical a b) := by
  have contains {x y : Value} (filledX : x.Filled type) (filledY : y.Filled type) :
      Affirms context .contains x y ↔ x.Includes y := by
    obtain ⟨answer, applied, decides⟩ := exists_apply_contains context matchable filledX filledY
    exact (affirms_iff_of_apply applied).trans decides
  obtain ⟨answer, applied, _⟩ := exists_apply_contains context matchable filledA filledB
  obtain ⟨same, appliedIdentical, decidesSame⟩ :=
    exists_apply_identical context matchable filledA filledB
  refine ⟨contains filledA filledB, ?_, ?_, ?_, affirms_or_denies_of_apply applied,
    affirms_or_denies_of_apply appliedIdentical⟩
  · exact (contains filledA filledA).mpr (.refl matchable filledA)
  · intro affirmsAB affirmsBC
    have includesAB := (contains filledA filledB).mp affirmsAB
    have includesBC := (contains filledB filledC).mp affirmsBC
    exact (contains filledA filledC).mpr (includesAB.trans includesBC)
  · rw [contains filledA filledB, contains filledB filledA, affirms_iff_of_apply appliedIdentical,
      decidesSame]

/-- The ends of pairs may be swapped, and duplicates count. -/
theorem contains_order_pairs :
    let bag : Value := .multiple ⟨.pair, [.pair "A" "B", .pair "C" "D", .pair "B" "A"]⟩
    let arranged : Value := .multiple ⟨.pair, [.pair "D" "C", .pair "B" "A", .pair "B" "A"]⟩
    let part : Value := .multiple ⟨.pair, [.pair "A" "B", .pair "A" "B"]⟩
    let context : Context := ⟨⟨.default, .standard⟩, ⟨[]⟩⟩
    (DeclaredType.multiple .pair).Matchable ∧
      bag.Filled (.multiple .pair) ∧ arranged.Filled (.multiple .pair) ∧
      part.Filled (.multiple .pair) ∧
      bag.Includes arranged ∧ Affirms context .identical bag arranged ∧
      Affirms context .contains bag part := by
  intro bag arranged part context
  have matchable : (DeclaredType.multiple .pair).Matchable := .multiple (by decide)
  have filledBag : bag.Filled (.multiple .pair) := ⟨⟨rfl, by decide⟩, rfl⟩
  have filledArranged : arranged.Filled (.multiple .pair) := ⟨⟨rfl, by decide⟩, rfl⟩
  have filledPart : part.Filled (.multiple .pair) := ⟨⟨rfl, by decide⟩, rfl⟩
  have forth : Affirms context .contains bag arranged := rfl
  have back : Affirms context .contains arranged bag := rfl
  have further : Affirms context .contains arranged part := rfl
  obtain ⟨decides, _, chain, both, _⟩ :=
    contains_order context matchable filledBag filledArranged filledPart
  exact ⟨matchable, filledBag, filledArranged, filledPart, decides.mp forth,
    both.mp ⟨forth, back⟩, chain forth further⟩

end Operator

end Assessment
