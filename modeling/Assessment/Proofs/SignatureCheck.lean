import Assessment.Evaluation.Signature
import Assessment.Proofs.Success

/-!
# What a signature admits

Operands pass the check of a signature exactly if their number lies within its bounds
and each of them is `null` or has an admitted cardinality and base type.
-/

namespace Assessment

/-- The operand is `null`, or has one of the cardinalities and, if base types are
listed, one of these. -/
def Accepts.Admits (accepts : Accepts) (operand : Value) : Prop :=
  ∀ cardinality, operand.cardinality? = some cardinality →
    cardinality ∈ accepts.cardinalities ∧
      (accepts.baseTypes = [] ∨ ∃ baseType ∈ accepts.baseTypes, operand.baseType? = some baseType)

namespace Signature

variable {operator : String} {signature : Signature}

/-- What the check of the operands ensures. -/
structure Admits (signature : Signature) (operands : List Value) : Prop where
  least : signature.least ≤ operands.length
  most : ∀ most, signature.most = some most → operands.length ≤ most
  each : ∀ position operand, operands[position]? = some operand →
    ∀ accepts, signature.accepts? position = some accepts → accepts.Admits operand

theorem checkCount_eq_ok_iff {count : Nat} :
    signature.checkCount operator count = .ok () ↔
      signature.least ≤ count ∧ ∀ most, signature.most = some most → count ≤ most := by
  unfold checkCount
  split
  next few => simp [Nat.not_le_of_lt few]
  next enough =>
    have reached : signature.least ≤ count := Nat.le_of_not_lt enough
    split
    next most bounded =>
      by_cases many : most < count
      · simp [bounded, many]
      · simp [reached, bounded, many, Nat.le_of_not_lt many]
    next unbounded => simp [reached, unbounded]

theorem checkOperand_eq_ok_iff {position : Nat} {operand : Value} :
    signature.checkOperand operator position operand = .ok () ↔
      ∀ accepts, signature.accepts? position = some accepts → accepts.Admits operand := by
  unfold checkOperand Accepts.Admits
  cases operand.cardinality? with
  | none => simp
  | some cardinality =>
      cases signature.accepts? position with
      | none => simp
      | some accepts =>
          by_cases fits : cardinality ∈ accepts.cardinalities
          · by_cases all : accepts.baseTypes = []
            · simp [fits, all]
            · cases operand.baseType? with
              | none => simp [fits, all]
              | some baseType =>
                  by_cases listed : baseType ∈ accepts.baseTypes <;> simp [fits, all, listed]
          · simp [fits]

theorem checkFrom_eq_ok_iff {position : Nat} {operands : List Value} :
    signature.checkFrom operator position operands = .ok () ↔
      ∀ offset operand, operands[offset]? = some operand →
        ∀ accepts, signature.accepts? (position + offset) = some accepts →
          accepts.Admits operand := by
  induction operands generalizing position with
  | nil => simp [checkFrom]
  | cons operand operands induction =>
      rw [checkFrom, bind_eq_ok_iff]
      constructor
      · rintro ⟨⟨⟩, first, others⟩ offset later found
        cases offset with
        | zero =>
            obtain rfl : operand = later := by simpa using found
            exact checkOperand_eq_ok_iff.mp first
        | succ offset =>
            have admitted := induction.mp others offset later (by simpa using found)
            rwa [Nat.add_right_comm, Nat.add_assoc] at admitted
      · intro admitted
        refine ⟨(), checkOperand_eq_ok_iff.mpr (admitted 0 operand rfl), ?_⟩
        refine induction.mpr fun offset later found => ?_
        have shifted := admitted (offset + 1) later (by simpa using found)
        rwa [← Nat.add_assoc, Nat.add_right_comm] at shifted

theorem check_eq_ok_iff {operands : List Value} :
    signature.check operator operands = .ok () ↔ signature.Admits operands := by
  rw [check, bind_eq_ok_iff]
  constructor
  · rintro ⟨⟨⟩, count, each⟩
    obtain ⟨least, most⟩ := checkCount_eq_ok_iff.mp count
    refine ⟨least, most, fun position operand found => ?_⟩
    have admitted := checkFrom_eq_ok_iff.mp each position operand found
    rwa [Nat.zero_add] at admitted
  · intro admits
    refine ⟨(), checkCount_eq_ok_iff.mpr ⟨admits.least, admits.most⟩, ?_⟩
    refine checkFrom_eq_ok_iff.mpr fun position operand found => ?_
    rw [Nat.zero_add]
    exact admits.each position operand found

/-- If a signature lists one entry, it holds for all operands. -/
theorem Admits.all {operands : List Value} (admits : signature.Admits operands)
    {accepts : Accepts} (one : signature.operands = [accepts]) :
    ∀ operand ∈ operands, accepts.Admits operand := by
  intro operand member
  obtain ⟨position, _, found⟩ := List.getElem_of_mem member
  refine admits.each position operand (by rw [List.getElem?_eq_some_iff]; exact ⟨_, found⟩)
    accepts ?_
  cases position <;> simp [accepts?, one]

/-- If a signature lists one entry, it is enough that this one admits all operands. -/
theorem Admits.of_all {operands : List Value} {accepts : Accepts}
    (one : signature.operands = [accepts]) (least : signature.least ≤ operands.length)
    (most : ∀ most, signature.most = some most → operands.length ≤ most)
    (each : ∀ operand ∈ operands, accepts.Admits operand) : signature.Admits operands := by
  refine ⟨least, most, fun position operand found listed expected => ?_⟩
  obtain rfl : accepts = listed := by
    cases position <;> simpa [accepts?, one] using expected
  exact each operand (List.mem_of_getElem? found)

theorem admits_exactly {operands : List Value} {accepts : Accepts} {count : Nat}
    (counted : operands.length = count) (each : ∀ operand ∈ operands, accepts.Admits operand) :
    (exactly count [accepts]).Admits operands := by
  refine .of_all rfl (Nat.le_of_eq counted.symm) ?_ each
  rintro _ ⟨rfl⟩
  exact Nat.le_of_eq counted

theorem admits_atLeast {operands : List Value} {accepts : Accepts} {count : Nat}
    (enough : count ≤ operands.length) (each : ∀ operand ∈ operands, accepts.Admits operand) :
    (atLeast count [accepts]).Admits operands :=
  .of_all rfl enough nofun each

end Signature

namespace Accepts

variable {accepts : Accepts} {operand : Value}

theorem Admits.hasBaseType (admits : accepts.Admits operand)
    (noRecords : .record ∉ accepts.cardinalities) :
    operand.isNull ∨ operand.baseType?.isSome := by
  cases operand with
  | null => exact .inl rfl
  | single scalar | multiple container | ordered container => exact .inr rfl
  | record fields => exact absurd (admits .record rfl).1 noRecords

/-- Admitted operands that are not NULL have one of the listed base types. -/
theorem Admits.baseType_mem (admits : accepts.Admits operand) (listed : accepts.baseTypes ≠ [])
    (notNull : operand.isNull = false) :
    ∃ baseType ∈ accepts.baseTypes, operand.baseType? = some baseType := by
  cases operand with
  | null => cases notNull
  | single scalar => exact (admits .single rfl).2.resolve_left listed
  | multiple container => exact (admits .multiple rfl).2.resolve_left listed
  | ordered container => exact (admits .ordered rfl).2.resolve_left listed
  | record fields => exact (admits .record rfl).2.resolve_left listed

theorem Admits.exists_single (admits : accepts.Admits operand)
    (single : accepts.cardinalities = [.single]) (notNull : operand.isNull = false) :
    ∃ scalar, operand = .single scalar := by
  cases operand with
  | null => cases notNull
  | single scalar => exact ⟨scalar, rfl⟩
  | multiple container => simpa [single] using (admits .multiple rfl).1
  | ordered container => simpa [single] using (admits .ordered rfl).1
  | record fields => simpa [single] using (admits .record rfl).1

end Accepts

end Assessment
