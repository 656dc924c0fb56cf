import Assessment.Proofs.ReadFrame
import Assessment.Proofs.SignatureCheck

/-!
# Operands that are NULL

Empty containers, empty records and the empty string are NULL, and operators cannot tell
them from `null`: most operators are NULL for any of them, and the others skip them or
count them as nothing.
-/

namespace Assessment

variable {operands : List Value} {operand : Value} {position : Nat}

theorem Value.eq_null_of_boolean {accepts : Accepts} (admits : accepts.Admits operand)
    (boolean : accepts = ⟨[.single], [.boolean]⟩) (null : operand.isNull = true) :
    operand = .null := by
  subst boolean
  cases operand with
  | null => rfl
  | single scalar =>
      obtain ⟨_, listed, found⟩ := (admits .single rfl).2.resolve_left (List.cons_ne_nil _ _)
      rw [List.mem_singleton.mp listed] at found
      cases scalar with
      | boolean => cases null
      | _ => cases found
  | multiple container => simpa using (admits .multiple rfl).1
  | ordered container => simpa using (admits .ordered rfl).1
  | record fields => simpa using (admits .record rfl).1

/-- Of a list in which a NULL is replaced by `null`, the same remains without NULLs. -/
theorem Value.filter_set_null (found : operands[position]? = some operand)
    (null : operand.isNull = true) :
    (operands.set position .null).filter (fun value => !value.isNull) =
      operands.filter fun value => !value.isNull := by
  induction operands generalizing position with
  | nil => rfl
  | cons first rest induction =>
      cases position with
      | zero =>
          obtain rfl : first = operand := by simpa using found
          have alike : first.isNull = Value.isNull .null := null
          simp only [List.set_cons_zero, List.filter_cons, alike]
          rfl
      | succ position =>
          rw [List.set_cons_succ, List.filter_cons, List.filter_cons,
            induction (by simpa using found)]

namespace Signature

variable {operator : String} {signature : Signature}

/-- `null` has no type that could be wrong. -/
theorem check_set_null (accepted : signature.check operator operands = .ok ()) :
    signature.check operator (operands.set position .null) = .ok () := by
  rw [check_eq_ok_iff] at accepted ⊢
  constructor
  · simpa using accepted.least
  · simpa using accepted.most
  · intro place value found accepts expected
    by_cases here : place = position
    · subst here
      obtain ⟨_, rfl⟩ : place < operands.length ∧ .null = value := by
        simpa [List.getElem?_set] using found
      exact nofun
    · rw [List.getElem?_set_ne (Ne.symm here)] at found
      exact accepted.each place value found accepts expected

end Signature

namespace Collection

theorem gather_set_null (operator : String) (found : operands[position]? = some operand)
    (null : operand.isNull = true) :
    gather operator (operands.set position .null) = gather operator operands := by
  simp only [gather, parts, Value.filter_set_null found null]

theorem size_of_isNull (null : operand.isNull = true) : size operand = 0 := by
  cases operand with
  | null | single | record => rfl
  | multiple container => exact List.length_eq_zero_iff.mpr (List.isEmpty_iff.mp null)
  | ordered container => exact List.length_eq_zero_iff.mpr (List.isEmpty_iff.mp null)

end Collection

namespace Operator

/-- A list of operands of which the one at a position is all there is. -/
theorem eq_singleton {signature : Signature} (admits : signature.Admits operands)
    (one : signature.most = some 1) (found : operands[position]? = some operand) :
    operands = [operand] ∧ position = 0 := by
  have few := admits.most 1 one
  match operands, position with
  | [], _ => cases found
  | [only], 0 =>
      cases found
      exact ⟨rfl, rfl⟩
  | _ :: _ :: _, _ => exact absurd few (by simp)

/-- Operators that treat NULL themselves skip it or count it as nothing; truth values
are never NULL. -/
theorem compute_set_null {operator : Operator} (store : Store) (limit : Nat)
    (handles : operator.signature.propagatesNull = false)
    (admits : operator.signature.Admits operands)
    (found : operands[position]? = some operand) (null : operand.isNull = true) :
    operator.compute store limit (operands.set position .null) =
      operator.compute store limit operands := by
  have unchanged (boolean : operator.signature.operands = [⟨[.single], [.boolean]⟩]) :
      operands.set position .null = operands := by
    have isOperand := admits.all boolean operand (List.mem_of_getElem? found)
    rw [Value.eq_null_of_boolean isOperand rfl null] at found
    obtain ⟨_, same⟩ := List.getElem?_eq_some_iff.mp found
    rw [← same, List.set_getElem_self]
  cases operator with
  | and => rw [unchanged rfl]
  | or => rw [unchanged rfl]
  | anyN least most => rw [unchanged rfl]
  | multiple => simp only [compute, Collection.collect, Collection.gather_set_null _ found null]
  | ordered => simp only [compute, Collection.collect, Collection.gather_set_null _ found null]
  | containerSize =>
      obtain ⟨rfl, rfl⟩ := eq_singleton admits rfl found
      have empty : Collection.size operand = Collection.size .null :=
        Collection.size_of_isNull null
      simp only [compute, unary, List.set_cons_zero, empty]
  | isNull =>
      obtain ⟨rfl, rfl⟩ := eq_singleton admits rfl found
      have alike : operand.isNull = Value.isNull .null := null
      simp only [compute, unary, List.set_cons_zero, alike]
  | replicate count =>
      simp only [compute, Collection.replicate, Collection.gather_set_null _ found null]
  | _ => cases handles

/-- An operator gives the same for operands that its signature admits if one of them that
is NULL is replaced by `null`: the same value or the same error, with the same draws. -/
theorem apply_set_null (context : Context) (operator : Operator)
    (accepted : operator.signature.check operator.name operands = .ok ())
    (found : operands[position]? = some operand) (null : operand.isNull = true) :
    operator.apply context (operands.set position .null) = operator.apply context operands := by
  have admits := Signature.check_eq_ok_iff.mp accepted
  have acceptedNull : operator.signature.check operator.name (operands.set position .null) =
      .ok () := Signature.check_set_null accepted
  obtain ⟨inside, _⟩ := List.getElem?_eq_some_iff.mp found
  have someNull : operands.any Value.isNull = true :=
    List.any_eq_true.mpr ⟨operand, List.mem_of_getElem? found, null⟩
  have stillNull : (operands.set position .null).any Value.isNull = true :=
    List.any_eq_true.mpr ⟨.null, List.mem_set inside .null, rfl⟩
  cases handles : operator.signature.propagatesNull with
  | true =>
      simp only [apply, accepted, acceptedNull, handles, someNull, stillNull]
      rfl
  | false =>
      have different : operator ≠ .random := by rintro rfl; cases handles
      rw [apply_eq_of_ne_random different, apply_eq_of_ne_random different, accepted,
        acceptedNull, handles, compute_set_null _ _ handles admits found null]
      rfl

/-- Even an empty container of integers between identifiers is skipped like `null`. -/
theorem apply_set_null_mixed :
    let operands : List Value :=
      [.single (.identifier "A"), .ordered ⟨.integer, []⟩, .single (.identifier "B")]
    let store : Store := ⟨[]⟩
    let context : Context := ⟨⟨.default, .standard⟩, store⟩
    Operator.ordered.signature.check Operator.ordered.name operands = .ok () ∧
      operands[1]? = some (.ordered ⟨.integer, []⟩) ∧
      Operator.ordered.apply context (operands.set 1 .null) =
        Operator.ordered.apply context operands ∧
      (Operator.ordered.apply context operands).run.run (.ofSeed 0) =
        (.ok (.ordered ⟨.identifier, [.identifier "A", .identifier "B"]⟩), .ofSeed 0) := by
  intro operands store context
  have accepted : Operator.ordered.signature.check Operator.ordered.name operands = .ok () := rfl
  exact ⟨accepted, rfl, apply_set_null context .ordered accepted rfl rfl, rfl⟩

end Operator

end Assessment
