import Assessment.Number.Decimal
import Assessment.Text.Blank

/-!
# Integers and their digits

The digits that are written for a number are read as that number, with and without a
sign, so every 64-bit integer is read back from its notation.
-/

namespace Assessment.Integer

variable {digits : List Char}

/-- The number with the sign that is read in front of its digits. -/
def signed (negative : Bool) (n : Nat) : Int :=
  if negative then -n else n

theorem isDigit_of_mem_digits {n : Nat} {c : Char} (member : c ∈ Integer.digits n) :
    c.isDigit = true :=
  Nat.isDigit_of_mem_toDigits (by decide) (by decide) member

theorem digit?_of_isDigit {c : Char} (isDigit : c.isDigit = true) :
    digit? c = some (c.toNat - 48) := by
  have inRange : '0' ≤ c ∧ c ≤ '9' := by
    simpa [Char.isDigit, Char.le_def] using isDigit
  simp [digit?, inRange]

theorem le_ofDigitChars (value : Nat) : value ≤ Nat.ofDigitChars 10 digits value := by
  induction digits generalizing value with
  | nil => simp
  | cons c rest induction =>
      rw [Nat.ofDigitChars_cons]
      have grown := induction (10 * value + (c.toNat - '0'.toNat))
      omega

/-- A digit is appended to the number behind the sign. -/
theorem readDigits_cons {negative : Bool} {c : Char} {d : Nat} (value : Nat)
    (digit : digit? c = some d) :
    readDigits negative (signed negative value) (c :: digits) =
      if fits (signed negative (10 * value + d)) then
        readDigits negative (signed negative (10 * value + d)) digits
      else .error (if negative then .tooSmall else .tooLarge) := by
  have next : (if negative then signed negative value * 10 - (d : Int)
      else signed negative value * 10 + (d : Int)) = signed negative (10 * value + d) := by
    cases negative <;> simp [signed] <;> omega
  simp only [readDigits, digit, next]

/-- Every partial number lies between zero and the whole one, so it fits if that one
does. -/
theorem readDigits_eq {negative : Bool} (value : Nat)
    (allDigits : ∀ c ∈ digits, c.isDigit = true)
    (inRange : fits (signed negative (Nat.ofDigitChars 10 digits value)) = true) :
    readDigits negative (signed negative value) digits =
      .ok (signed negative (Nat.ofDigitChars 10 digits value)) := by
  induction digits generalizing value with
  | nil => simp [readDigits]
  | cons c rest induction =>
      have head := digit?_of_isDigit (allDigits c List.mem_cons_self)
      have later := fun d member => allDigits d (List.mem_cons_of_mem c member)
      rw [Nat.ofDigitChars_cons] at inRange ⊢
      have zero : '0'.toNat = 48 := rfl
      rw [zero] at inRange ⊢
      have nextFits : fits (signed negative (10 * value + (c.toNat - 48))) = true := by
        have grown := @le_ofDigitChars rest (10 * value + (c.toNat - 48))
        rw [fits_iff, least, greatest] at inRange ⊢
        cases negative <;>
          simp only [signed, Bool.false_eq_true, if_false, if_true] at inRange ⊢ <;> omega
      rw [readDigits_cons value head, if_pos nextFits]
      exact induction _ later inRange

theorem isDigit_of_digit? {c : Char} {d : Nat} (digit : digit? c = some d) :
    c.isDigit = true ∧ d = c.toNat - 48 := by
  unfold digit? at digit
  split at digit
  next inRange =>
    cases digit
    exact ⟨by simpa [Char.isDigit, Char.le_def] using inRange, rfl⟩
  next => cases digit

/-- Whatever is read as digits consists of digits, and is the number that they denote. -/
theorem digits_of_readDigits {negative : Bool} {value : Nat} {n : Int}
    (inRange : fits (signed negative value) = true)
    (read : readDigits negative (signed negative value) digits = .ok n) :
    (∀ c ∈ digits, c.isDigit = true) ∧
      n = signed negative (Nat.ofDigitChars 10 digits value) ∧ fits n = true := by
  induction digits generalizing value with
  | nil =>
      cases read
      exact ⟨nofun, rfl, inRange⟩
  | cons c rest induction =>
      cases digit : digit? c with
      | none =>
          simp only [readDigits, digit] at read
          cases read
      | some d =>
          obtain ⟨isDigit, rfl⟩ := isDigit_of_digit? digit
          rw [readDigits_cons value digit] at read
          split at read
          next nextFits =>
            obtain ⟨later, whole⟩ := induction nextFits read
            rw [Nat.ofDigitChars_cons]
            exact ⟨List.forall_mem_cons.mpr ⟨isDigit, later⟩, whole⟩
          next => cases read

theorem readDigits_digits {negative : Bool} {n : Nat}
    (inRange : fits (signed negative n) = true) :
    readDigits negative 0 (Integer.digits n) = .ok (signed negative n) := by
  have whole : Nat.ofDigitChars 10 (Integer.digits n) 0 = n := Nat.ofDigitChars_ten_toDigits
  have read := @readDigits_eq _ negative 0
    (fun c member => isDigit_of_mem_digits (n := n) member) (by rw [whole]; exact inRange)
  rw [whole] at read
  cases negative <;> exact read

/-- Digits begin with a digit. -/
theorem digits_eq_cons (n : Nat) :
    ∃ c rest, Integer.digits n = c :: rest ∧ c.isDigit = true := by
  cases written : Integer.digits n with
  | nil => exact absurd written Nat.toDigits_ne_nil
  | cons c rest => exact ⟨c, rest, rfl, isDigit_of_mem_digits (n := n) (by simp [written])⟩

theorem read_digits {n : Nat} (inRange : fits n = true) :
    read (Integer.digits n) = .ok (Int64.ofInt n) := by
  have digitsRead := @readDigits_digits false n inRange
  obtain ⟨c, rest, written, isDigit⟩ := digits_eq_cons n
  rw [written] at digitsRead ⊢
  have notPlus : c ≠ '+' := by rintro rfl; exact absurd isDigit (by decide)
  have notMinus : c ≠ '-' := by rintro rfl; exact absurd isDigit (by decide)
  rw [read]
  · rw [digitsRead]
    rfl
  all_goals simp_all

theorem read_minus_digits {n : Nat} (inRange : fits (-(n : Int)) = true) :
    read ('-' :: Integer.digits n) = .ok (Int64.ofInt (-n)) := by
  have digitsRead := @readDigits_digits true n inRange
  obtain ⟨c, rest, written, _⟩ := digits_eq_cons n
  rw [written] at digitsRead ⊢
  rw [read, digitsRead]
  · rfl
  · simp

theorem fits_toInt (i : Int64) : fits i.toInt = true := by
  have lower := Int64.le_toInt i
  have upper := Int64.toInt_lt i
  rw [fits_iff, least, greatest]
  omega

/-- What is written for an integer is read as that integer. -/
theorem read?_decimal (i : Int64) : read? (decimal i.toInt) = some i := by
  have inRange := fits_toInt i
  unfold read? decimal
  split
  next below =>
    have magnitude : -(i.toInt.natAbs : Int) = i.toInt := by omega
    rw [read_minus_digits (by rw [magnitude]; exact inRange), magnitude]
    simp [Except.toOption]
  next notBelow =>
    have magnitude : (i.toInt.natAbs : Int) = i.toInt := by omega
    rw [read_digits (by rw [magnitude]; exact inRange), magnitude]
    simp [Except.toOption]

/-! ## Characters of the notation -/

theorem isDigit_or_minus_of_mem_decimal {n : Int} {c : Char} (member : c ∈ decimal n) :
    c.isDigit = true ∨ c = '-' := by
  unfold decimal at member
  split at member
  next =>
    rcases List.mem_cons.mp member with rfl | digit
    · exact .inr rfl
    · exact .inl (isDigit_of_mem_digits digit)
  next => exact .inl (isDigit_of_mem_digits member)

theorem decimal_ne_nil (n : Int) : decimal n ≠ [] := by
  unfold decimal
  split
  next => simp
  next => exact Nat.toDigits_ne_nil

theorem isBlank_of_isDigit {c : Char} (isDigit : c.isDigit = true) :
    Text.isBlank c = false := by
  simp only [Char.isDigit, ge_iff_le, Bool.and_eq_true, decide_eq_true_eq,
    UInt32.le_iff_toNat_le] at isDigit
  have inRange : 48 ≤ c.toNat ∧ c.toNat ≤ 57 := isDigit
  simp only [Text.isBlank, Bool.or_eq_false_iff, Bool.and_eq_false_iff, decide_eq_false_iff_not,
    beq_eq_false_iff_ne]
  omega

theorem isBlank_of_mem_decimal {n : Int} {c : Char} (member : c ∈ decimal n) :
    Text.isBlank c = false := by
  rcases isDigit_or_minus_of_mem_decimal member with isDigit | rfl
  · exact isBlank_of_isDigit isDigit
  · decide

end Assessment.Integer
