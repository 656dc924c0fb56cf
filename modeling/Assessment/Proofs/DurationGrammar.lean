import Assessment.Proofs.DurationText
import Assessment.Scalar
import Mathlib.Algebra.Ring.Nat

/-!
# The grammar of durations

A duration is written as an optional sign, a `P`, and amounts of calendar units, which
may be followed by a `T` and amounts of clock units.  A `Literal` is a text of this shape
with its parts told apart, and its length is computed from the parts.  What is read are
exactly the literals that fit in 64 bits, each of them with its length.
-/

namespace Assessment.Duration

/-! ## Amounts -/

/-- An amount of a unit as it is written: digits, and for seconds possibly a point with
more digits behind it. -/
structure Term where
  unit : Unit
  whole : List Char
  fraction : Option (List Char)
  whole_ne_nil : whole ≠ []
  whole_digits : ∀ c ∈ whole, isDigit c = true
  fraction_digits : ∀ digits, fraction = some digits → ∀ c ∈ digits, isDigit c = true
  fraction_second : fraction.isSome → unit = .second

namespace Term

/-- What is written for whole units. -/
def ofCount (n : Nat) (unit : Unit) : Term where
  unit := unit
  whole := Integer.digits n
  fraction := none
  whole_ne_nil := digits_ne_nil n
  whole_digits := fun _ => isDigit_of_mem_digits
  fraction_digits := fun _ absent => nomatch absent
  fraction_second := fun absent => nomatch absent

def fractionText (term : Term) : List Char :=
  match term.fraction with
  | none => []
  | some digits => '.' :: digits

/-- The text in front of the designator. -/
def amountText (term : Term) : List Char :=
  term.whole ++ term.fractionText

def text (term : Term) : List Char :=
  term.amountText ++ [term.unit.designator]

/-- The number in front of the point. -/
def count (term : Term) : Nat :=
  Nat.ofDigitChars 10 term.whole 0

/-- The whole microseconds of the fraction. -/
def fractionMicros (term : Term) : Nat :=
  match term.fraction with
  | none => 0
  | some digits => Nat.ofDigitChars 10 digits 0 * 10 ^ 6 / 10 ^ digits.length

def micros (term : Term) : Nat :=
  term.count * term.unit.micros + term.fractionMicros

theorem amountText_ne_nil (term : Term) : term.amountText ≠ [] := by
  simp [amountText, term.whole_ne_nil]

theorem isAmountChar_of_mem_amountText {term : Term} {c : Char}
    (member : c ∈ term.amountText) : isAmountChar c = true := by
  rcases List.mem_append.mp member with digit | behind
  · simp [isAmountChar, term.whole_digits c digit]
  · unfold fractionText at behind
    split at behind
    next => cases behind
    next digits fraction =>
      rcases List.mem_cons.mp behind with rfl | digit
      · decide
      · simp [isAmountChar, term.fraction_digits digits fraction c digit]

end Term

theorem ofDigitChars_lt {digits : List Char} (allDigits : ∀ c ∈ digits, isDigit c = true) :
    Nat.ofDigitChars 10 digits 0 < 10 ^ digits.length := by
  induction digits with
  | nil => simp
  | cons c rest induction =>
      obtain ⟨digit, later⟩ := List.forall_mem_cons.mp allDigits
      have small : c.toNat - '0'.toNat < 10 := by
        simp only [isDigit, Bool.and_eq_true, decide_eq_true_eq, Char.le_def,
          UInt32.le_iff_toNat_le] at digit
        have inRange : 48 ≤ c.toNat ∧ c.toNat ≤ 57 := digit
        have zero : '0'.toNat = 48 := rfl
        omega
      have bound := induction later
      rw [Nat.ofDigitChars_cons, Nat.ofDigitChars_eq_ofDigitChars_zero, List.length_cons,
        Nat.pow_succ]
      have scaled : 10 ^ rest.length * (10 * 0 + (c.toNat - '0'.toNat)) ≤
          10 ^ rest.length * 9 := Nat.mul_le_mul_left _ (by omega)
      omega

/-- Digits after the sixth do not matter: they make up less than a microsecond. -/
theorem fractionMicros_eq {digits : List Char} (allDigits : ∀ c ∈ digits, isDigit c = true) :
    fractionMicros digits = Nat.ofDigitChars 10 digits 0 * 10 ^ 6 / 10 ^ digits.length := by
  simp only [fractionMicros, number_eq, Nat.pow_eq]
  by_cases few : digits.length ≤ 6
  · have power : 10 ^ 6 = 10 ^ (6 - digits.length) * 10 ^ digits.length := by
      rw [← Nat.pow_add, Nat.sub_add_cancel few]
    rw [List.take_of_length_le few, power, ← Nat.mul_assoc,
      Nat.mul_div_cancel _ (Nat.pow_pos (by decide))]
  · let rest := digits.drop 6
    have places : digits.length = rest.length + 6 := by simp [rest]; omega
    have kept : (digits.take 6).length = 6 := by simp; omega
    have split : Nat.ofDigitChars 10 digits 0 =
        10 ^ rest.length * Nat.ofDigitChars 10 (digits.take 6) 0 +
          Nat.ofDigitChars 10 rest 0 := by
      conv_lhs => rw [← List.take_append_drop 6 digits]
      rw [Nat.ofDigitChars_append, Nat.ofDigitChars_eq_ofDigitChars_zero]
    have little : Nat.ofDigitChars 10 rest 0 < 10 ^ rest.length :=
      ofDigitChars_lt fun c member => allDigits c (List.mem_of_mem_drop member)
    rw [kept, places, Nat.pow_add, Nat.mul_div_mul_right _ _ (by decide), split,
      Nat.mul_add_div (Nat.pow_pos (by decide)), Nat.div_eq_of_lt little]
    simp

namespace Term

theorem amountMicros?_amountText (term : Term) :
    amountMicros? term.amountText term.unit = some term.micros := by
  have nonempty : term.whole.isEmpty = false := by simpa using term.whole_ne_nil
  have taken : term.amountText.takeWhile isDigit =
      term.whole ++ term.fractionText.takeWhile isDigit :=
    List.takeWhile_append_of_pos term.whole_digits
  have dropped : term.amountText.dropWhile isDigit = term.fractionText.dropWhile isDigit :=
    List.dropWhile_append_of_pos term.whole_digits
  have point : isDigit '.' = false := by decide
  cases fraction : term.fraction with
  | none =>
      simp [amountMicros?, taken, dropped, fractionText, fraction, nonempty, number_eq, micros,
        count, fractionMicros]
  | some digits =>
      have allDigits := term.fraction_digits digits fraction
      have second : term.unit = .second := term.fraction_second (by simp [fraction])
      have all : digits.all isDigit = true := List.all_eq_true.mpr allDigits
      simp [amountMicros?, taken, dropped, fractionText, fraction, point, nonempty, second, all,
        number_eq, micros, count, fractionMicros, fractionMicros_eq allDigits]

/-- A text with a length is the text of an amount. -/
theorem exists_of_amountMicros? {amount : List Char} {unit : Unit} {n : Nat}
    (chars : ∀ c ∈ amount, isAmountChar c = true)
    (success : amountMicros? amount unit = some n) :
    ∃ term : Term, term.amountText = amount ∧ term.unit = unit ∧ term.micros = n := by
  have parts : amount.takeWhile isDigit ++ amount.dropWhile isDigit = amount :=
    List.takeWhile_append_dropWhile
  have digits : ∀ c ∈ amount.takeWhile isDigit, isDigit c = true :=
    List.all_eq_true.mp List.all_takeWhile
  simp only [amountMicros?] at success
  split at success
  next noFraction =>
    obtain ⟨nonempty, length⟩ : amount.takeWhile isDigit ≠ [] ∧
        number (amount.takeWhile isDigit) * unit.micros = n := by simpa using success
    refine ⟨⟨unit, _, none, nonempty, digits, by simp, by simp⟩, ?_, rfl, ?_⟩
    · simpa [amountText, fractionText, noFraction] using parts
    · simpa [micros, count, fractionMicros, number_eq] using length
  next c fraction found =>
    obtain ⟨⟨⟨second, nonempty⟩, fractionDigits⟩, length⟩ :
        ((unit = .second ∧ amount.takeWhile isDigit ≠ []) ∧ ∀ d ∈ fraction, isDigit d = true) ∧
          number (amount.takeWhile isDigit) * unit.micros +
            Duration.fractionMicros fraction = n := by simpa using success
    -- the character that ends the digits is no digit, and an amount has only points besides
    have noDigit : isDigit c = false := by
      have ended := List.head?_dropWhile_not isDigit amount
      rwa [found] at ended
    have member : c ∈ amount :=
      (List.dropWhile_suffix isDigit).subset (found ▸ List.mem_cons_self)
    obtain rfl : c = '.' := by simpa [isAmountChar, noDigit] using chars c member
    refine ⟨⟨unit, _, some fraction, nonempty, digits, ?_, fun _ => second⟩, ?_, rfl, ?_⟩
    · rintro _ ⟨rfl⟩
      exact fractionDigits
    · simpa [amountText, fractionText, found] using parts
    · simpa [micros, count, fractionMicros, number_eq, fractionMicros_eq fractionDigits]
        using length

end Term

/-! ## Amounts one after another -/

/-- The amounts that are found make up the text, and their units come in order. -/
theorem amounts?_eq_some {units : List Unit} {pending text : List Char}
    {entries : List (List Char × Unit)}
    (chars : ∀ c ∈ pending, isAmountChar c = true)
    (success : amounts? units pending text = some entries) :
    (entries.flatMap fun entry => entry.1 ++ [entry.2.designator]) = pending.reverse ++ text ∧
      (entries.map Prod.snd).Sublist units ∧
      ∀ entry ∈ entries, ∀ c ∈ entry.1, isAmountChar c = true := by
  fun_induction amounts? units pending text generalizing entries with
  | case1 units pending empty =>
      cases success
      simpa using empty
  | case2 => cases success
  | case3 units pending c rest continues induction =>
      have gathered : ∀ d ∈ c :: pending, isAmountChar d = true :=
        List.forall_mem_cons.mpr ⟨continues, chars⟩
      simpa using induction gathered success
  | case4 => cases success
  | case5 => cases success
  | case6 units pending c rest ends unit later found nonempty induction =>
      obtain ⟨others, othersFound, rfl⟩ := Option.map_eq_some_iff.mp success
      obtain ⟨text, inOrder, othersChars⟩ := induction (by simp) othersFound
      have designator : unit.designator = c := by
        have reached := List.head?_dropWhile_not (fun other => other.designator != c) units
        rw [found] at reached
        simpa using reached
      have behind : (unit :: later).Sublist units :=
        found ▸ (List.dropWhile_suffix _).sublist
      refine ⟨?_, (inOrder.cons_cons unit).trans behind, ?_⟩
      · simp [text, designator]
      · exact List.forall_mem_cons.mpr
          ⟨fun d member => chars d (List.mem_reverse.mp member), othersChars⟩

namespace Term

def amount (term : Term) : Amount :=
  ⟨term.amountText, term.unit, term.micros⟩

theorem write_amount (term : Term) : term.amount.write = term.text := by
  simp [amount, Amount.write, amountText_ne_nil, text]

theorem reads_amount (term : Term) : term.amount.Reads where
  chars := fun _ => isAmountChar_of_mem_amountText
  length := fun _ => term.amountMicros?_amountText
  nothing := fun empty => absurd empty term.amountText_ne_nil

end Term

def textOf (terms : List Term) : List Char :=
  terms.flatMap Term.text

def microsOf (terms : List Term) : Nat :=
  (terms.map Term.micros).sum

theorem totalMicros?_textOf {terms : List Term}
    (inOrder : (terms.map Term.unit).Sublist units)
    (distinct : (units.map Unit.designator).Nodup) :
    totalMicros? units (textOf terms) = some (microsOf terms) := by
  have order : ((terms.map Term.amount).map Amount.unit).Sublist units := by
    rw [List.map_map]
    exact inOrder
  have reads : ∀ amount ∈ terms.map Term.amount, amount.Reads :=
    List.forall_mem_map.mpr fun term _ => term.reads_amount
  have total := totalMicros?_writeAll order distinct reads
  rw [List.flatMap_map, List.map_map, ← List.sum_eq_foldl] at total
  simp only [Term.write_amount] at total
  exact total

/-- Amounts that have a length each are the amounts of terms. -/
theorem exists_terms {entries : List (List Char × Unit)} {lengths : List Nat}
    (chars : ∀ entry ∈ entries, ∀ c ∈ entry.1, isAmountChar c = true)
    (read : List.Forall₂ (fun entry length => amountMicros? entry.1 entry.2 = some length)
      entries lengths) :
    ∃ terms : List Term,
      textOf terms = (entries.flatMap fun entry => entry.1 ++ [entry.2.designator]) ∧
        terms.map Term.unit = entries.map Prod.snd ∧ terms.map Term.micros = lengths := by
  induction read with
  | nil => exact ⟨[], rfl, rfl, rfl⟩
  | cons first _ induction =>
      obtain ⟨firstChars, otherChars⟩ := List.forall_mem_cons.mp chars
      obtain ⟨term, amount, unit, rfl⟩ := Term.exists_of_amountMicros? firstChars first
      obtain ⟨terms, text, units, rfl⟩ := induction otherChars
      refine ⟨term :: terms, ?_, ?_, rfl⟩
      · rw [List.flatMap_cons, ← text, ← amount, ← unit]
        rfl
      · rw [List.map_cons, List.map_cons, units, unit]

/-- A text has a total length exactly if it consists of amounts in the order of the
units, and then the length is that of the amounts. -/
theorem totalMicros?_eq_some_iff (distinct : (units.map Unit.designator).Nodup)
    {text : List Char} {n : Nat} :
    totalMicros? units text = some n ↔
      ∃ terms : List Term, textOf terms = text ∧ (terms.map Term.unit).Sublist units ∧
        microsOf terms = n := by
  constructor
  · intro success
    obtain ⟨entries, found, rest⟩ := Option.bind_eq_some_iff.mp success
    obtain ⟨lengths, read, total⟩ := Option.bind_eq_some_iff.mp rest
    obtain ⟨written, inOrder, chars⟩ := amounts?_eq_some (by simp) found
    obtain ⟨terms, amounts, order, rfl⟩ := exists_terms chars (mapM_eq_some_iff.mp read)
    refine ⟨terms, amounts.trans written, order ▸ inOrder, ?_⟩
    rw [← List.sum_eq_foldl] at total
    exact Option.some.inj total
  · rintro ⟨terms, rfl, inOrder, rfl⟩
    exact totalMicros?_textOf inOrder distinct

/-! ## Literals -/

/-- A duration as it is written.  The `T` stands in front of the clock units exactly if
there are any. -/
structure Literal where
  negative : Bool
  calendar : List Term
  clock : List Term
  calendar_inOrder : (calendar.map Term.unit).Sublist Unit.calendar
  clock_inOrder : (clock.map Term.unit).Sublist Unit.clock
  terms_ne_nil : calendar ++ clock ≠ []

namespace Literal

def terms (literal : Literal) : List Term :=
  literal.calendar ++ literal.clock

/-- The text behind the `P`. -/
def body (literal : Literal) : List Char :=
  textOf literal.calendar ++ if literal.clock.isEmpty then [] else 'T' :: textOf literal.clock

def text (literal : Literal) : List Char :=
  (if literal.negative then ['-'] else []) ++ 'P' :: literal.body

def magnitude (literal : Literal) : Nat :=
  microsOf literal.terms

/-- The number of microseconds that is meant. -/
def value (literal : Literal) : Int :=
  if literal.negative then -literal.magnitude else literal.magnitude

end Literal

theorem ne_time_of_mem_textOf {terms : List Term} {c : Char} (member : c ∈ textOf terms) :
    c ≠ 'T' := by
  rintro rfl
  obtain ⟨term, _, written⟩ := List.mem_flatMap.mp member
  rcases List.mem_append.mp written with amount | designator
  · exact absurd (Term.isAmountChar_of_mem_amountText amount) (by decide)
  · have same := List.mem_singleton.mp designator
    cases unit : term.unit <;> simp [unit, Unit.designator] at same

theorem textOf_ne_nil {terms : List Term} (nonempty : terms ≠ []) : textOf terms ≠ [] := by
  cases terms with
  | nil => exact absurd rfl nonempty
  | cons term terms => simp [textOf, Term.text]

theorem microsOf_append (first second : List Term) :
    microsOf (first ++ second) = microsOf first + microsOf second := by
  simp [microsOf]

theorem magnitude?_body (literal : Literal) :
    magnitude? literal.body = some literal.magnitude := by
  have days := totalMicros?_textOf literal.calendar_inOrder (by decide)
  have hours := totalMicros?_textOf literal.clock_inOrder (by decide)
  have noTime : ∀ c ∈ textOf literal.calendar, c ≠ 'T' := fun _ => ne_time_of_mem_textOf
  rw [Literal.body, Literal.magnitude, Literal.terms, microsOf_append]
  by_cases noClock : literal.clock = []
  · have calendar : literal.calendar ≠ [] := by simpa [noClock] using literal.terms_ne_nil
    have written : (textOf literal.calendar).isEmpty = false := by
      simpa using textOf_ne_nil calendar
    simp [noClock, magnitude?, splitTime_of_none noTime, written, days, microsOf]
  · have some : literal.clock.isEmpty = false := by simpa using noClock
    have written : (textOf literal.clock).isEmpty = false := by
      simpa using textOf_ne_nil noClock
    simp [some, magnitude?, splitTime_append noTime, written, days, hours]

/-- A text with a magnitude is the body of a literal, whatever its sign. -/
theorem exists_literal {body : List Char} {n : Nat} (success : magnitude? body = some n)
    (negative : Bool) :
    ∃ literal : Literal,
      literal.negative = negative ∧ literal.body = body ∧ literal.magnitude = n := by
  by_cases time : 'T' ∈ body
  · obtain ⟨date, clock, rfl, noTime⟩ := List.eq_append_cons_of_mem time
    have apart := splitTime_append (fun c member same => noTime (same ▸ member)) clock
    simp only [magnitude?, apart] at success
    split at success
    next => cases success
    next nonempty =>
      obtain ⟨days, daysRead, rest⟩ := Option.bind_eq_some_iff.mp success
      obtain ⟨hours, hoursRead, together⟩ := Option.bind_eq_some_iff.mp rest
      obtain ⟨calendar, rfl, calendarOrder, rfl⟩ :=
        (totalMicros?_eq_some_iff (by decide)).mp daysRead
      obtain ⟨terms, rfl, clockOrder, rfl⟩ :=
        (totalMicros?_eq_some_iff (by decide)).mp hoursRead
      have some : terms ≠ [] := by
        rintro rfl
        exact nonempty rfl
      refine ⟨⟨negative, calendar, terms, calendarOrder, clockOrder, by simp [some]⟩, rfl, ?_, ?_⟩
      · simp [Literal.body, some]
      · rw [Literal.magnitude, Literal.terms, microsOf_append]
        exact Option.some.inj together
  · simp only [magnitude?, splitTime_of_none fun c member same => time (same ▸ member)]
      at success
    split at success
    next => cases success
    next nonempty =>
      obtain ⟨calendar, rfl, calendarOrder, rfl⟩ :=
        (totalMicros?_eq_some_iff (by decide)).mp success
      have some : calendar ≠ [] := by
        rintro rfl
        exact nonempty rfl
      refine ⟨⟨negative, calendar, [], calendarOrder, List.nil_sublist _, by simp [some]⟩,
        rfl, ?_, ?_⟩
      · simp [Literal.body]
      · simp [Literal.magnitude, Literal.terms]

/-! ## What is read -/

/-- A literal that fits in 64 bits is read with its value. -/
theorem read?_text {literal : Literal}
    (short : (literal.magnitude : Int) ≤ Integer.greatest) :
    ∃ d, read? literal.text = some d ∧ d.micros.toInt = literal.value := by
  have inRange : Integer.fits literal.magnitude = true := by
    rw [Integer.fits_iff, Integer.least]
    omega
  exact ⟨_, read?_signed (magnitude?_body literal) inRange,
    toInt_signed literal.negative inRange⟩

/-- What is read is a literal that fits in 64 bits. -/
theorem exists_literal_of_read? {text : List Char} {d : Duration}
    (success : read? text = some d) :
    ∃ literal : Literal, literal.text = text ∧
      (literal.magnitude : Int) ≤ Integer.greatest ∧ d.micros.toInt = literal.value := by
  obtain ⟨negative, body, n, rfl, magnitude, inRange, micros⟩ := eq_of_read?_eq_some success
  obtain ⟨literal, rfl, rfl, rfl⟩ := exists_literal magnitude negative
  exact ⟨literal, rfl, (Integer.fits_iff.mp inRange).2, micros⟩

/-- Exactly the literals that fit in 64 bits are read, each with its value; any other
text is refused as no duration.  The value counts the units by the lengths that stand
here with their designators. -/
theorem accepts_literals (text : List Char) :
    (∀ literal : Literal, literal.text = text → (literal.magnitude : Int) ≤ Integer.greatest →
      ∃ d, read? text = some d ∧ d.micros.toInt = literal.value) ∧
    (∀ d, read? text = some d → ∃ literal : Literal, literal.text = text ∧
      (literal.magnitude : Int) ≤ Integer.greatest ∧ d.micros.toInt = literal.value) ∧
    ((∀ literal : Literal, literal.text = text → Integer.greatest < literal.magnitude) →
      read? text = none ∧ ∀ given : String, Text.trim given.toList = text →
        Scalar.read .duration given = .error (.invalidDuration (String.ofList text))) ∧
    (Unit.calendar ++ Unit.clock).map (fun unit => (unit.designator, unit.micros)) =
      [('Y', 365 * 86400000000), ('M', 30 * 86400000000), ('W', 7 * 86400000000),
        ('D', 86400000000), ('H', 3600000000), ('M', 60000000), ('S', 1000000)] := by
  refine ⟨?_, fun d => exists_literal_of_read?, fun refused => ?_, rfl⟩
  · rintro literal rfl short
    exact read?_text short
  · have nothing : read? text = none := by
      rw [Option.eq_none_iff_forall_ne_some]
      intro d success
      obtain ⟨literal, written, short, _⟩ := exists_literal_of_read? success
      exact absurd (refused literal written) (Int.not_lt.mpr short)
    refine ⟨nothing, ?_⟩
    rintro given rfl
    simp [Scalar.read, nothing]

/-- The literal `-P1Y2M3DT4H5M6.2500007S`. -/
def signedLiteral : Literal where
  negative := true
  calendar := [.ofCount 1 .year, .ofCount 2 .month, .ofCount 3 .day]
  clock := [.ofCount 4 .hour, .ofCount 5 .minute,
    { unit := .second
      whole := ['6']
      fraction := some ['2', '5', '0', '0', '0', '0', '7']
      whole_ne_nil := by decide
      whole_digits := List.all_eq_true.mp (by decide)
      fraction_digits := by
        rintro _ ⟨rfl⟩
        exact List.all_eq_true.mp (by decide)
      fraction_second := fun _ => rfl }]
  calendar_inOrder := by decide
  clock_inOrder := by decide
  terms_ne_nil := by simp

/-- Less than a microsecond is cut off, and days do not come before years. -/
theorem accepts_literals_signed :
    (∃ d, read? "-P1Y2M3DT4H5M6.2500007S".toList = some d ∧
      d.micros.toInt = -36993906250000) ∧
    Scalar.read .duration " P1D2Y " = .error (.invalidDuration "P1D2Y") := by
  constructor
  · exact (accepts_literals _).1 signedLiteral (by decide +kernel) (by decide +kernel)
  · have unread : read? "P1D2Y".toList = none := by decide +kernel
    obtain ⟨accepts, _, refuses, _⟩ := accepts_literals "P1D2Y".toList
    have tooLong : ∀ literal : Literal, literal.text = "P1D2Y".toList →
        Integer.greatest < literal.magnitude := by
      intro literal written
      by_contra short
      obtain ⟨d, success, _⟩ := accepts literal written (Int.not_lt.mp short)
      rw [unread] at success
      cases success
    exact (refuses tooLong).2 " P1D2Y " (by decide +kernel)

end Assessment.Duration
