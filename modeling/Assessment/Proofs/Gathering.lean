import Assessment.Proofs.ResultType

/-!
# Gathering operands

`multiple`, `ordered` and `repeat` put the scalars of their operands into one container, in
a loop that takes the operands one after another.  What was gathered before can be gathered
again: among the operands of a collection, another collection may stand for its own
operands, and what is NULL may be left out.  A container that was gathered is never empty.
-/

namespace Assessment

namespace Container

/-- The container with further scalars at the end. -/
def extend (container : Container) (scalars : List Scalar) : Container :=
  { container with values := container.values ++ scalars }

theorem baseType_extend (container : Container) (scalars : List Scalar) :
    (container.extend scalars).baseType = container.baseType :=
  rfl

theorem extend_nil (container : Container) : container.extend [] = container := by
  rw [extend, List.append_nil]

theorem extend_extend (container : Container) (first second : List Scalar) :
    (container.extend first).extend second = container.extend (first ++ second) := by
  simp only [extend, List.append_assoc]

/-- Pushes scalars one after another. -/
def pushAll (container : Container) (scalars : List Scalar) : Except ModelError Container :=
  scalars.foldlM push container

variable {container : Container} {scalar : Scalar} {scalars : List Scalar}

theorem push_eq_ok (alike : scalar.baseType = container.baseType) :
    container.push scalar = .ok (container.extend [scalar]) :=
  if_pos alike

theorem pushAll_eq_ok (alike : ∀ scalar ∈ scalars, scalar.baseType = container.baseType) :
    container.pushAll scalars = .ok (container.extend scalars) := by
  induction scalars generalizing container with
  | nil => rw [extend_nil]; rfl
  | cons scalar scalars induction =>
      obtain ⟨here, later⟩ := List.forall_mem_cons.mp alike
      have rest := @induction (container.extend [scalar]) later
      rw [extend_extend] at rest
      rw [pushAll, List.foldlM_cons, push_eq_ok here]
      exact rest

end Container

/-- A container as a sequence or as a bag. -/
def Value.ofContainer (ordered : Bool) (container : Container) : Value :=
  if ordered then .ordered container else .multiple container

theorem Value.isNull_ofContainer (ordered : Bool) (container : Container) :
    (Value.ofContainer ordered container).isNull = container.isEmpty := by
  cases ordered <;> rfl

theorem Value.baseType?_ofContainer (ordered : Bool) (container : Container) :
    (Value.ofContainer ordered container).baseType? = some container.baseType := by
  cases ordered <;> rfl

theorem Value.scalars_ofContainer (ordered : Bool) (container : Container) :
    (Value.ofContainer ordered container).scalars = container.values := by
  cases ordered <;> rfl

namespace Collection

variable {operator : String} {operands : List Value} {operand value : Value}
  {gathered : Option Container} {baseType : BaseType}

/-! ## The loop -/

/-- One turn of the loop.  The first operand that is not NULL begins the container, and its
scalars are pushed one by one; `refuse` is how a scalar that is not accepted is reported. -/
def gatherTurn (refuse : ModelError → EvalError) (operator : String)
    (gathered : Option Container) (operand : Value) : Evaluated (Option Container) :=
  if operand.isNull then .ok gathered
  else
    match operand.baseType? with
    | none => .ok gathered
    | some baseType =>
        let container := gathered.getD (.empty baseType)
        if container.baseType = baseType then
          ((container.pushAll operand.scalars).mapError refuse).map some
        else .error (.invalidOperand operator (.mixedBaseTypes container.baseType baseType))

/-- Gathers operands one after another. -/
def gatherLoop (refuse : ModelError → EvalError) (operator : String) (operands : List Value) :
    Evaluated (Option Container) :=
  operands.foldlM (gatherTurn refuse operator) none

/-- Adds a part to what was gathered before it. -/
def absorb (operator : String) (gathered : Option Container) (part : BaseType × List Scalar) :
    Evaluated (Option Container) :=
  let container := gathered.getD (.empty part.1)
  if container.baseType = part.1 then .ok (some (container.extend part.2))
  else .error (.invalidOperand operator (.mixedBaseTypes container.baseType part.1))

theorem absorb_none (part : BaseType × List Scalar) :
    absorb operator none part = .ok (some ⟨part.1, part.2⟩) :=
  if_pos rfl

theorem absorb_other {container : Container} {part : BaseType × List Scalar}
    (different : container.baseType ≠ part.1) :
    absorb operator (some container) part =
      .error (.invalidOperand operator (.mixedBaseTypes container.baseType part.1)) :=
  if_neg different

/-- What an operand contributes, nothing if it is NULL. -/
def part? (operand : Value) : Option (BaseType × List Scalar) :=
  if operand.isNull then none
  else operand.baseType?.map fun baseType => (baseType, operand.scalars)

theorem parts_eq_filterMap (operands : List Value) : parts operands = operands.filterMap part? := by
  rw [parts, List.filterMap_filter]
  refine List.filterMap_congr fun operand _ => ?_
  cases null : operand.isNull <;> simp [part?, null]

theorem parts_append (front back : List Value) :
    parts (front ++ back) = parts front ++ parts back := by
  simp only [parts_eq_filterMap, List.filterMap_append]

/-- Scalars of a well-formed operand are all accepted. -/
theorem gatherTurn_eq (refuse : ModelError → EvalError) (wellFormed : operand.WellFormed) :
    gatherTurn refuse operator gathered operand =
      (part? operand).elim (.ok gathered) (absorb operator gathered) := by
  unfold gatherTurn part?
  split
  next => rfl
  next =>
    cases declared : operand.baseType? with
    | none => rfl
    | some baseType =>
        simp only [Option.map_some, Option.elim_some, absorb]
        split
        next same =>
          have alike : ∀ scalar ∈ operand.scalars,
              scalar.baseType = (gathered.getD (.empty baseType)).baseType := fun scalar member =>
            (Value.baseType_of_mem_scalars wellFormed declared member).trans same.symm
          rw [Container.pushAll_eq_ok alike]
          rfl
        next => rfl

theorem foldlM_gatherTurn_eq (refuse : ModelError → EvalError)
    (wellFormed : ∀ operand ∈ operands, operand.WellFormed) :
    operands.foldlM (gatherTurn refuse operator) gathered =
      (parts operands).foldlM (absorb operator) gathered := by
  rw [parts_eq_filterMap]
  induction operands generalizing gathered with
  | nil => rfl
  | cons operand operands induction =>
      obtain ⟨here, later⟩ := List.forall_mem_cons.mp wellFormed
      rw [List.foldlM_cons, gatherTurn_eq refuse here, List.filterMap_cons]
      cases part? operand with
      | none => exact induction later
      | some part =>
          rw [List.foldlM_cons]
          exact congrArg _ (funext fun _ => induction later)

/-- Parts of one base type are absorbed like one part with all their scalars. -/
theorem absorb_absorb (first second : List Scalar) :
    (absorb operator gathered (baseType, first) >>= fun gathered =>
      absorb operator gathered (baseType, second)) =
      absorb operator gathered (baseType, first ++ second) := by
  unfold absorb
  by_cases same : (gathered.getD (.empty baseType)).baseType = baseType
  · simp [same, bind, Except.bind, Container.baseType_extend, Container.extend_extend]
  · simp [same, bind, Except.bind]

theorem foldlM_absorb_uniform {parts : List (BaseType × List Scalar)} {first : List Scalar}
    (uniform : ∀ part ∈ parts, part.1 = baseType) :
    ((baseType, first) :: parts).foldlM (absorb operator) gathered =
      absorb operator gathered (baseType, first ++ parts.flatMap (·.2)) := by
  induction parts generalizing first with
  | nil => simp
  | cons part parts induction =>
      obtain ⟨here, later⟩ := List.forall_mem_cons.mp uniform
      obtain ⟨other, second⟩ := part
      obtain rfl : other = baseType := here
      -- the first part takes in the second one, and the induction is on the parts behind them
      calc
        ((other, first) :: (other, second) :: parts).foldlM (absorb operator) gathered
        _ = (absorb operator gathered (other, first) >>= fun gathered =>
              absorb operator gathered (other, second)) >>=
              parts.foldlM (absorb operator) := by simp only [List.foldlM_cons, bind_assoc]
        _ = ((other, first ++ second) :: parts).foldlM (absorb operator) gathered := by
              rw [absorb_absorb, List.foldlM_cons]
        _ = absorb operator gathered (other, first ++ second ++ parts.flatMap (·.2)) :=
              induction later
        _ = _ := by rw [List.append_assoc, List.flatMap_cons]

/-- Gathering is a run of the loop: it ends at the first part of another base type. -/
theorem gather_eq_foldlM (operator : String) (operands : List Value) :
    gather operator operands = (parts operands).foldlM (absorb operator) none := by
  unfold gather
  split
  next none => rw [none]; rfl
  next baseType scalars rest found =>
    rw [found]
    split
    next stranger isStranger =>
      obtain ⟨differs, passed, later, rfl, before⟩ := List.find?_eq_some_iff_append.mp isStranger
      have uniform : ∀ part ∈ passed, part.1 = baseType := by simpa using before
      have different : baseType ≠ stranger.1 := (bne_iff_ne.mp differs).symm
      rw [← List.cons_append, List.foldlM_append, foldlM_absorb_uniform uniform, absorb_none]
      have refused : absorb operator (some ⟨baseType, scalars ++ passed.flatMap (·.2)⟩) stranger =
          .error (.invalidOperand operator (.mixedBaseTypes baseType stranger.1)) :=
        absorb_other different
      exact (congrArg (· >>= later.foldlM (absorb operator)) refused).symm
    next noStranger =>
      have uniform : ∀ part ∈ rest, part.1 = baseType := by
        simpa using List.find?_eq_none.mp noStranger
      rw [foldlM_absorb_uniform uniform, absorb_none]

/-- For well-formed operands the loop gathers what `gather` does, and refuses no scalar. -/
theorem gatherLoop_eq_gather (refuse : ModelError → EvalError)
    (wellFormed : ∀ operand ∈ operands, operand.WellFormed) :
    gatherLoop refuse operator operands = gather operator operands := by
  rw [gatherLoop, foldlM_gatherTurn_eq refuse wellFormed, gather_eq_foldlM]

/-! ## What is gathered -/

/-- The scalars of the operands that are not NULL, in order. -/
def contents (operands : List Value) : List Scalar :=
  (operands.filter fun operand => !operand.isNull).flatMap Value.scalars

theorem part?_eq_some_iff {part : BaseType × List Scalar} :
    part? operand = some part ↔
      operand.isNull = false ∧ operand.baseType? = some part.1 ∧ operand.scalars = part.2 := by
  obtain ⟨baseType, scalars⟩ := part
  cases null : operand.isNull <;> simp [part?, null]

theorem part?_eq_none_iff :
    part? operand = none ↔ operand.isNull = true ∨ operand.baseType? = none := by
  cases null : operand.isNull <;> simp [part?, null]

theorem exists_of_mem_parts {part : BaseType × List Scalar} (member : part ∈ parts operands) :
    ∃ operand ∈ operands, operand.isNull = false ∧ operand.baseType? = some part.1 ∧
      operand.scalars = part.2 := by
  rw [parts_eq_filterMap] at member
  obtain ⟨operand, isOperand, found⟩ := List.mem_filterMap.mp member
  exact ⟨operand, isOperand, part?_eq_some_iff.mp found⟩

theorem scalars_ne_nil (notNull : operand.isNull = false)
    (declared : operand.baseType? = some baseType) : operand.scalars ≠ [] := by
  cases operand with
  | null | record => cases declared
  | single => exact List.cons_ne_nil _ _
  | multiple container | ordered container => exact List.isEmpty_eq_false_iff.mp notNull

theorem flatMap_parts (operands : List Value) :
    (parts operands).flatMap (·.2) = contents operands := by
  rw [parts_eq_filterMap]
  induction operands with
  | nil => rfl
  | cons operand operands induction =>
      rw [contents, List.filterMap_cons, List.filter_cons]
      cases found : part? operand with
      | some part =>
          obtain ⟨notNull, _, scalars⟩ := part?_eq_some_iff.mp found
          rw [List.flatMap_cons, induction, notNull, ← scalars]
          rfl
      | none =>
          rw [induction]
          rcases part?_eq_none_iff.mp found with null | undeclared
          · rw [null]
            rfl
          -- a record is not NULL unless it is empty, but has no scalars to contribute
          · have nothing : operand.scalars = [] := by
              cases operand <;> first | rfl | cases undeclared
            split
            next => rw [List.flatMap_cons, nothing]; rfl
            next => rfl

variable {container : Container}

theorem foldlM_absorb_parts (nonempty : parts operands ≠ [])
    (uniform : ∀ part ∈ parts operands, part.1 = baseType) :
    (parts operands).foldlM (absorb operator) gathered =
      absorb operator gathered (baseType, contents operands) := by
  rw [← flatMap_parts]
  cases whole : parts operands with
  | nil => exact absurd whole nonempty
  | cons part rest =>
      rw [whole] at uniform
      obtain ⟨here, later⟩ := List.forall_mem_cons.mp uniform
      rw [← here] at later ⊢
      exact foldlM_absorb_uniform later

theorem gather_eq_some_iff :
    gather operator operands = .ok (some container) ↔
      parts operands ≠ [] ∧ (∀ part ∈ parts operands, part.1 = container.baseType) ∧
        container.values = contents operands := by
  constructor
  · intro found
    have uniform := (parts_of_gather found).1
    have nonempty : parts operands ≠ [] := by
      intro nothing
      rw [gather, nothing] at found
      cases found
    rw [gather_eq_foldlM, foldlM_absorb_parts nonempty uniform, absorb_none] at found
    have same := congrArg Container.values (Option.some.inj (Except.ok.inj found))
    exact ⟨nonempty, uniform, same.symm⟩
  · rintro ⟨nonempty, uniform, same⟩
    rw [gather_eq_foldlM, foldlM_absorb_parts nonempty uniform, absorb_none, ← same]

/-- What was gathered is not empty: operands that have a base type and are not NULL hold
scalars. -/
theorem values_ne_nil (found : gather operator operands = .ok (some container)) :
    container.values ≠ [] := by
  obtain ⟨nonempty, _, same⟩ := gather_eq_some_iff.mp found
  obtain ⟨part, member⟩ := List.exists_mem_of_ne_nil _ nonempty
  obtain ⟨operand, _, notNull, declared, scalars⟩ := exists_of_mem_parts member
  rw [same, ← flatMap_parts, Ne, List.flatMap_eq_nil_iff]
  intro empty
  exact scalars_ne_nil notNull declared (scalars.trans (empty part member))

/-- Operands of one base type that hold something are gathered. -/
theorem gather_of_shared
    (shared : ∀ operand ∈ operands, operand.isNull = false → operand.baseType? = some baseType)
    (filled : contents operands ≠ []) :
    gather operator operands = .ok (some ⟨baseType, contents operands⟩) := by
  refine gather_eq_some_iff.mpr ⟨fun nothing => filled ?_, fun part member => ?_, rfl⟩
  · rw [← flatMap_parts, nothing]
    rfl
  · obtain ⟨operand, isOperand, notNull, declared, _⟩ := exists_of_mem_parts member
    rw [shared operand isOperand notNull] at declared
    exact (Option.some.inj declared).symm

theorem gather_eq_none_iff : gather operator operands = .ok none ↔ parts operands = [] := by
  unfold gather
  split
  next nothing => simp [nothing]
  next found =>
    rw [found]
    split <;> simp

/-- Among the operands that are not NULL are two of these base types, which differ. -/
structure Mixes (operands : List Value) (first other : BaseType) : Prop where
  left : ∃ operand ∈ operands, operand.isNull = false ∧ operand.baseType? = some first
  right : ∃ operand ∈ operands, operand.isNull = false ∧ operand.baseType? = some other
  differ : first ≠ other

/-- The error names the base type of the first part, and the first one that differs. -/
theorem mixes_of_gather {error : EvalError} (failed : gather operator operands = .error error) :
    ∃ first other, Mixes operands first other ∧
      error = .invalidOperand operator (.mixedBaseTypes first other) := by
  unfold gather at failed
  split at failed
  next => cases failed
  next baseType scalars rest found =>
    split at failed
    next stranger isStranger =>
      cases failed
      have leading : (baseType, scalars) ∈ parts operands := found ▸ List.mem_cons_self
      have strange : stranger ∈ parts operands :=
        found ▸ List.mem_cons_of_mem _ (List.mem_of_find?_eq_some isStranger)
      obtain ⟨a, isOperandA, notNullA, declaredA, _⟩ := exists_of_mem_parts leading
      obtain ⟨b, isOperandB, notNullB, declaredB, _⟩ := exists_of_mem_parts strange
      have differs := List.find?_some isStranger
      exact ⟨baseType, stranger.1, ⟨⟨a, isOperandA, notNullA, declaredA⟩,
        ⟨b, isOperandB, notNullB, declaredB⟩, (bne_iff_ne.mp differs).symm⟩, rfl⟩
    next => cases failed

theorem Mixes.gather_ne_ok {first other : BaseType} (mixes : Mixes operands first other) :
    gather operator operands ≠ .ok gathered := by
  obtain ⟨⟨a, isOperandA, notNullA, declaredA⟩, ⟨b, isOperandB, notNullB, declaredB⟩, differ⟩ :=
    mixes
  have left := mem_parts_of_not_null isOperandA notNullA declaredA
  have right := mem_parts_of_not_null isOperandB notNullB declaredB
  intro success
  cases gathered with
  | none =>
      rw [gather_eq_none_iff.mp success] at left
      cases left
  | some container =>
      have uniform := (gather_eq_some_iff.mp success).2.1
      exact differ ((uniform _ left).trans (uniform _ right).symm)

/-! ## Collections within collections -/

/-- A collection as the loop makes it. -/
def collectLoop (refuse : ModelError → EvalError) (operator : String)
    (wrap : Container → Value) (operands : List Value) : Evaluated Value := do
  match ← gatherLoop refuse operator operands with
  | some container => return wrap container
  | none => return .null

/-- Operands may be replaced by others that are absorbed alike. -/
theorem gather_congr (front back : List Value) {middle others : List Value}
    (alike : ∀ gathered, (parts middle).foldlM (absorb operator) gathered =
      (parts others).foldlM (absorb operator) gathered) :
    gather operator (front ++ middle ++ back) = gather operator (front ++ others ++ back) := by
  simp only [gather_eq_foldlM, parts_append, List.foldlM_append, alike]

theorem parts_of_isNull (null : operand.isNull = true) : parts [operand] = [] := by
  rw [parts_eq_filterMap, List.filterMap_cons, part?_eq_none_iff.mpr (.inl null)]
  rfl

theorem part?_ofContainer (ordered : Bool) (filled : container.values ≠ []) :
    part? (.ofContainer ordered container) = some (container.baseType, container.values) := by
  refine part?_eq_some_iff.mpr ⟨?_, ?_, ?_⟩
  · rw [Value.isNull_ofContainer]
    exact List.isEmpty_eq_false_iff.mpr filled
  · exact Value.baseType?_ofContainer ordered container
  · exact Value.scalars_ofContainer ordered container

theorem foldlM_absorb_collected (operator : String) {inner : String} {ordered : Bool}
    (collected : collect inner (.ofContainer ordered) operands = .ok value)
    (gathered : Option Container) :
    (parts [value]).foldlM (absorb operator) gathered =
      (parts operands).foldlM (absorb operator) gathered := by
  obtain ⟨whole, found, wrapped⟩ := bind_eq_ok_iff.mp collected
  cases whole with
  | none =>
      cases wrapped
      rw [gather_eq_none_iff.mp found, parts_of_isNull rfl]
  | some container =>
      cases wrapped
      obtain ⟨nonempty, uniform, same⟩ := gather_eq_some_iff.mp found
      rw [foldlM_absorb_parts nonempty uniform, parts_eq_filterMap, List.filterMap_cons,
        part?_ofContainer ordered (values_ne_nil found), same]
      exact bind_pure _

theorem scalars_of_collect {ordered : Bool}
    (collected : collect operator (.ofContainer ordered) operands = .ok value)
    (notNull : value ≠ .null) :
    value.isNull = false ∧ value.scalars ≠ [] ∧ value.scalars = contents operands := by
  obtain ⟨whole, found, wrapped⟩ := bind_eq_ok_iff.mp collected
  cases whole with
  | none =>
      cases wrapped
      exact absurd rfl notNull
  | some container =>
      cases wrapped
      have filled := values_ne_nil found
      have same := (gather_eq_some_iff.mp found).2.2
      rw [Value.isNull_ofContainer, Value.scalars_ofContainer]
      exact ⟨List.isEmpty_eq_false_iff.mpr filled, filled, same⟩

/-- In a collection, another collection may stand for its own operands, and operands that
are NULL may be left out; the result, or the error, stays the same.  A collection that is
not NULL holds the scalars of its operands in order, and at least one.  Only different base
types make it fail.  The loop that pushes the scalars one by one gives the same. -/
theorem collect_flattens (operator inner : String) (ordered nested : Bool)
    (operands front back : List Value) :
    (∀ value, collect inner (.ofContainer nested) operands = .ok value →
      collect operator (.ofContainer ordered) (front ++ value :: back) =
        collect operator (.ofContainer ordered) (front ++ operands ++ back)) ∧
      (∀ nothing : Value, nothing.isNull = true →
        collect operator (.ofContainer ordered) (front ++ nothing :: back) =
          collect operator (.ofContainer ordered) (front ++ back)) ∧
      (∀ value, collect operator (.ofContainer ordered) operands = .ok value → value ≠ .null →
        value.isNull = false ∧ value.scalars ≠ [] ∧ value.scalars = contents operands) ∧
      (∀ error, collect operator (.ofContainer ordered) operands = .error error →
        ∃ first other, Mixes operands first other ∧
          error = .invalidOperand operator (.mixedBaseTypes first other)) ∧
      (∀ first other, Mixes operands first other →
        ∃ error, collect operator (.ofContainer ordered) operands = .error error) ∧
      ∀ refuse, (∀ operand ∈ operands, operand.WellFormed) →
        collectLoop refuse operator (.ofContainer ordered) operands =
          collect operator (.ofContainer ordered) operands := by
  refine ⟨fun value collected => ?_, fun nothing isNull => ?_, fun value => scalars_of_collect,
    fun error failed => ?_, fun first other mixes => exists_error_of_not_ok ?_,
    fun refuse wellFormed => ?_⟩
  · have alike := gather_congr front back (foldlM_absorb_collected operator collected)
    rw [List.append_assoc, List.singleton_append] at alike
    rw [collect, collect, alike]
  · rw [collect, collect, gather_eq_foldlM, gather_eq_foldlM, List.append_cons, parts_append,
      parts_append, parts_append, parts_of_isNull isNull, List.append_nil]
  · rcases bind_eq_error_iff.mp failed with failed | ⟨gathered, _, failed⟩
    · exact mixes_of_gather failed
    · cases gathered <;> cases failed
  · intro value success
    obtain ⟨gathered, found, _⟩ := bind_eq_ok_iff.mp success
    exact mixes.gather_ne_ok found
  · rw [collectLoop, gatherLoop_eq_gather refuse wellFormed]
    rfl

/-- A sequence within a bag between operands that are NULL; and operands that do not go
together fail alike behind either. -/
theorem collect_flattens_nested :
    let operands : List Value :=
      [.string "", .ordered ⟨.identifier, [.identifier "A", .identifier "B"]⟩,
        .single (.identifier "A")]
    let value : Value :=
      .ordered ⟨.identifier, [.identifier "A", .identifier "B", .identifier "A"]⟩
    let collected := fun (operands : List Value) =>
      collect "multiple" (.ofContainer false) operands
    collect "ordered" (.ofContainer true) operands = .ok value ∧
      collected [.multiple (.empty .integer), value, .single (.identifier "C")] =
        collected ([.multiple (.empty .integer)] ++ operands ++ [.single (.identifier "C")]) ∧
      collected [.multiple (.empty .integer), value] = collected [value] ∧
      collected [.integer 7, value] = collected ([.integer 7] ++ operands) ∧
      collected [.integer 7, value] =
        .error (.invalidOperand "multiple" (.mixedBaseTypes .integer .identifier)) := by
  intro operands value collected
  have inner : collect "ordered" (.ofContainer true) operands = .ok value := rfl
  obtain ⟨flat, _⟩ := collect_flattens "multiple" "ordered" false true operands
    [.multiple (.empty .integer)] [.single (.identifier "C")]
  obtain ⟨_, nulls, _⟩ := collect_flattens "multiple" "ordered" false true operands [] [value]
  obtain ⟨mixed, _⟩ := collect_flattens "multiple" "ordered" false true operands [.integer 7] []
  exact ⟨inner, flat value inner, nulls (.multiple (.empty .integer)) rfl, mixed value inner, rfl⟩

end Collection

end Assessment
