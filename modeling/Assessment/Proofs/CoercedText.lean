import Assessment.Proofs.Coercion
import Assessment.Proofs.ScalarText
import Assessment.Proofs.StoreView

/-!
# Coercion to types of text

A scalar that is assigned to a variable for strings, identifiers or `intOrIdentifier`
scalars keeps its text, and becomes the scalar that this text is read as.  There is one
exception: an identifier in the notation of an integer stays an identifier, whereas its text
is read as the integer.
-/

namespace Assessment

namespace Scalar

/-- The base types to which scalars are converted by their text alone. -/
def textual : List BaseType :=
  [.string, .identifier, .intOrIdentifier]

/-- The integer whose notation an identifier has. -/
def disguised? : Scalar → Option Int64
  | .identifier name => readInteger? name.toList
  | _ => none

variable {scalar stored : Scalar} {target : BaseType}

/-- The conversions to types of text. -/
inductive Converts : Scalar → BaseType → Scalar → Prop where
  | same (scalar : Scalar) : Converts scalar scalar.baseType scalar
  | toString (name : String) : Converts (.identifier name) .string (.string name)
  | toIdentifier {name : String} (identifier : isIdentifier name.toList = true) :
      Converts (.string name) .identifier (.identifier name)
  | ofInteger (value : Int64) :
      Converts (.integer value) .intOrIdentifier (.intOrIdentifier (.integer value))
  | ofIdentifier (name : String) :
      Converts (.identifier name) .intOrIdentifier (.intOrIdentifier (.identifier name))

theorem converts_of_coerce? (textual : target ∈ textual)
    (success : scalar.coerce? target = some stored) : Converts scalar target stored := by
  unfold coerce? at success
  split at success
  next same =>
    cases success
    exact same ▸ .same scalar
  next =>
    split at success
    next => simp [Scalar.textual] at textual
    next => simp [Scalar.textual] at textual
    next =>
      cases success
      exact .toString _
    next =>
      split at success
      next identifier =>
        cases success
        exact .toIdentifier identifier
      next => cases success
    next =>
      cases success
      exact .ofInteger _
    next =>
      cases success
      exact .ofIdentifier _
    next => cases success

theorem Converts.text_eq (converts : Converts scalar target stored) :
    stored.text = scalar.text := by
  cases converts <;> rfl

/-- What is stored has the form of what was read, unless it is a disguised integer. -/
theorem Converts.legible (converts : Converts scalar target stored) (legible : scalar.Legible)
    (plain : target = .intOrIdentifier → scalar.disguised? = none) : stored.Legible := by
  cases converts with
  | same => exact legible
  | toString name => trivial
  | toIdentifier identifier => exact identifier
  | ofInteger value => trivial
  | ofIdentifier name => exact ⟨legible, plain rfl⟩

theorem read_text_of_coerce? (legible : scalar.Legible) (textual : target ∈ textual)
    (success : scalar.coerce? target = some stored)
    (plain : target = .intOrIdentifier → scalar.disguised? = none) :
    read target scalar.text = .ok stored := by
  obtain rfl : stored.baseType = target := baseType_coerce? success
  have notFloat : stored.baseType ≠ .float := fun same => by simp [same, Scalar.textual] at textual
  have notFile : stored.baseType ≠ .file := fun same => by simp [same, Scalar.textual] at textual
  have converts := converts_of_coerce? textual success
  rw [read_eq_ok_iff, ← converts.text_eq]
  exact read?_text (converts.legible legible plain) notFloat notFile

theorem read_text_of_disguised {i : Int64} (legible : scalar.Legible)
    (disguised : scalar.disguised? = some i) :
    scalar.coerce? .intOrIdentifier = some (.intOrIdentifier (.identifier scalar.text)) ∧
      read .intOrIdentifier scalar.text = .ok (.intOrIdentifier (.integer i)) := by
  cases scalar with
  | identifier name =>
      refine ⟨rfl, read_eq_ok_iff.mpr ?_⟩
      have integer : readInteger? name.toList = some i := disguised
      simp only [read?, text, trim_of_isIdentifier legible, readIntOrIdentifier?, integer,
        Option.map_some]
  | _ => cases disguised

/-- Coercion and reading differ for disguised integers, and only for these. -/
theorem read_text_iff (legible : scalar.Legible) (textual : target ∈ textual)
    (success : scalar.coerce? target = some stored) :
    read target scalar.text = .ok stored ↔
      (target = .intOrIdentifier → scalar.disguised? = none) := by
  refine ⟨?_, read_text_of_coerce? legible textual success⟩
  rintro readAlike rfl
  cases disguised : scalar.disguised? with
  | none => rfl
  | some i =>
      obtain ⟨coerced, differs⟩ := read_text_of_disguised legible disguised
      rw [success] at coerced
      rw [readAlike] at differs
      cases coerced
      cases differs

end Scalar

namespace Store

variable {store after : Store} {identifier : String} {v : Variable} {scalar : Scalar}
  {source target : BaseType} {text : String}

/-- What a successful assignment stores. -/
theorem value?_of_setValue {value : Value} (found : store.get? identifier = some v)
    (success : store.setValue identifier value = .ok after) :
    ∃ coerced, v.type.coerce? value = some coerced ∧ after.value? identifier = some coerced := by
  have declared : store.get identifier = .ok v := by rw [get, found]
  have keeps (coerced : Value) (v : Variable) :
      (v.setValue coerced).identifier = v.identifier := rfl
  rw [setValue, declared] at success
  obtain ⟨_, ⟨⟩, rest⟩ := bind_eq_ok_iff.mp success
  obtain ⟨coerced, fits, written⟩ := bind_eq_ok_iff.mp rest
  cases written
  refine ⟨coerced, Variable.coerce_eq_ok_iff.mp fits, ?_⟩
  rw [value?, get?_update (keeps coerced), if_pos rfl, found]
  rfl

/-- A scalar that was read and is assigned to a single variable for strings, identifiers or
`intOrIdentifier` scalars becomes what its text is read as, unless it is an identifier in the
notation of an integer and the variable is one for `intOrIdentifier` scalars.  Such an
identifier is stored as an identifier, although its text is read as the integer. -/
theorem setValue_stores_read (readFrom : Scalar.read source text = .ok scalar)
    (found : store.get? identifier = some v) (type : v.type = .single target)
    (textual : target ∈ Scalar.textual)
    (success : store.setValue identifier (.single scalar) = .ok after) :
    ∃ stored, after.value? identifier = some (.single stored) ∧
      (Scalar.read target scalar.text = .ok stored ↔
        (target = .intOrIdentifier → scalar.disguised? = none)) ∧
      ∀ i, target = .intOrIdentifier → scalar.disguised? = some i →
        stored = .intOrIdentifier (.identifier scalar.text) ∧
          Scalar.read target scalar.text = .ok (.intOrIdentifier (.integer i)) := by
  have legible := Scalar.legible_read readFrom
  obtain ⟨coerced, fits, holds⟩ := value?_of_setValue found success
  rw [type] at fits
  obtain ⟨stored, converted, rfl⟩ := Option.map_eq_some_iff.mp fits
  refine ⟨stored, holds, Scalar.read_text_iff legible textual converted, ?_⟩
  rintro i rfl disguised
  obtain ⟨kept, differs⟩ := Scalar.read_text_of_disguised legible disguised
  exact ⟨Option.some.inj (converted.symm.trans kept), differs⟩

/-- A variable for `intOrIdentifier` scalars in a store of its own. -/
def ofIntOrIdentifier (value : Value) : Store :=
  ⟨[⟨"CHOICE", .single .intOrIdentifier, .template ⟨false, false⟩, value, .null⟩]⟩

theorem setValue_stores_read_choice :
    let before := ofIntOrIdentifier .null
    let after := ofIntOrIdentifier (.single (.intOrIdentifier (.identifier "7B")))
    Scalar.read .identifier " 7B " = .ok (.identifier "7B") ∧
      before.setValue "CHOICE" (.single (.identifier "7B")) = .ok after ∧
      Scalar.read .intOrIdentifier "7B" = .ok (.intOrIdentifier (.identifier "7B")) := by
  intro before after
  have readFrom : Scalar.read .identifier " 7B " = .ok (.identifier "7B") := by decide +kernel
  have success : before.setValue "CHOICE" (.single (.identifier "7B")) = .ok after := by
    decide +kernel
  obtain ⟨stored, holds, agrees, _⟩ :=
    setValue_stores_read readFrom rfl rfl (by decide) success
  obtain rfl : .intOrIdentifier (.identifier "7B") = stored := by
    simpa [after, ofIntOrIdentifier, value?, get?_eq_find?] using holds
  exact ⟨readFrom, success, agrees.mpr fun _ => by decide +kernel⟩

/-- The identifier `7` is stored as an identifier, which differs from the integer that its
text is read as. -/
theorem setValue_stores_disguised :
    Scalar.read .identifier "7" = .ok (.identifier "7") ∧
      (ofIntOrIdentifier .null).setValue "CHOICE" (.single (.identifier "7")) =
        .ok (ofIntOrIdentifier (.single (.intOrIdentifier (.identifier "7")))) ∧
      Scalar.read .intOrIdentifier "7" = .ok (.intOrIdentifier (.integer 7)) ∧
      Value.equal (.single (.intOrIdentifier (.identifier "7")))
        (.single (.intOrIdentifier (.integer 7))) = false := by
  decide +kernel

end Store

end Assessment
