import Assessment.Proofs.DurationGrammar

/-!
# The normal form of durations

The text of a duration is a literal: its terms are the parts of the duration that are
not zero, from the years down.  Each part is less than the unit above it, the parts make
up the magnitude, and the text is read as the duration it was written for, so durations
are written alike exactly if they are of the same length.
-/

namespace Assessment.Duration

/-! ## Terms for the parts of a duration -/

/-- The unit of a term with its number of whole units and of microseconds besides. -/
def Term.reading (term : Term) : Unit × Nat × Nat :=
  (term.unit, term.count, term.fractionMicros)

/-- What is written for seconds with microseconds. -/
def Term.ofSeconds (seconds micros : Nat) : Term where
  unit := .second
  whole := Integer.digits seconds
  fraction := some (fractionDigits micros)
  whole_ne_nil := digits_ne_nil seconds
  whole_digits := fun _ => isDigit_of_mem_digits
  fraction_digits := by
    rintro _ ⟨rfl⟩
    exact fun _ => isDigit_of_mem_fractionDigits
  fraction_second := fun _ => rfl

namespace Term

theorem reading_ofCount (n : Nat) (unit : Unit) : (ofCount n unit).reading = (unit, n, 0) := by
  have count : Nat.ofDigitChars 10 (Integer.digits n) 0 = n := Nat.ofDigitChars_ten_toDigits
  simp [reading, Term.count, fractionMicros, ofCount, count]

theorem reading_ofSeconds (seconds : Nat) {micros : Nat} (short : micros < 1000000) :
    (ofSeconds seconds micros).reading = (.second, seconds, micros) := by
  have count : Nat.ofDigitChars 10 (Integer.digits seconds) 0 = seconds :=
    Nat.ofDigitChars_ten_toDigits
  have fraction := fractionMicros_fractionDigits short
  rw [fractionMicros_eq fun _ => isDigit_of_mem_fractionDigits] at fraction
  simp only [reading, Term.count, fractionMicros, ofSeconds, count, fraction]

end Term

/-- The terms for a part of a duration: none if it is zero. -/
def countTerms (n : Nat) (unit : Unit) : List Term :=
  if n = 0 then [] else [Term.ofCount n unit]

def secondTerms (p : Parts) : List Term :=
  if p.micros = 0 then countTerms p.seconds .second else [Term.ofSeconds p.seconds p.micros]

theorem textOf_countTerms (n : Nat) (unit : Unit) :
    textOf (countTerms n unit) = writeAmount n unit := by
  by_cases zero : n = 0 <;>
    simp [countTerms, writeAmount, zero, textOf, Term.text, Term.amountText, Term.fractionText,
      Term.ofCount]

theorem textOf_secondTerms (p : Parts) : textOf (secondTerms p) = writeSeconds p := by
  by_cases zero : p.micros = 0
  · simp [secondTerms, writeSeconds, zero, textOf_countTerms]
  · simp [secondTerms, writeSeconds, zero, textOf, Term.text, Term.amountText,
      Term.fractionText, Term.ofSeconds, Unit.designator]

theorem units_countTerms (n : Nat) (unit : Unit) :
    ((countTerms n unit).map Term.unit).Sublist [unit] := by
  by_cases zero : n = 0 <;> simp [countTerms, zero, Term.ofCount]

theorem units_secondTerms (p : Parts) :
    ((secondTerms p).map Term.unit).Sublist [.second] := by
  by_cases zero : p.micros = 0
  · simpa [secondTerms, zero] using units_countTerms p.seconds .second
  · simp [secondTerms, zero, Term.ofSeconds]

namespace Parts

def calendarTerms (p : Parts) : List Term :=
  countTerms p.years .year ++ countTerms p.months .month ++ countTerms p.days .day

def clockTerms (p : Parts) : List Term :=
  countTerms p.hours .hour ++ countTerms p.minutes .minute ++ secondTerms p

/-- The parts with their units, microseconds besides the seconds. -/
def amounts (p : Parts) : List (Unit × Nat × Nat) :=
  [(.year, p.years, 0), (.month, p.months, 0), (.day, p.days, 0), (.hour, p.hours, 0),
    (.minute, p.minutes, 0), (.second, p.seconds, p.micros)]

/-- No part reaches the unit above it.  Twelve months are less than a year, which has
five days more. -/
structure Normal (p : Parts) : Prop where
  months : p.months ≤ 12
  days : p.days < 30
  hours : p.hours < 24
  minutes : p.minutes < 60
  seconds : p.seconds < 60
  micros : p.micros < 1000000

theorem textOf_calendarTerms (p : Parts) : textOf p.calendarTerms = writeCalendar p := by
  simp only [calendarTerms, writeCalendar, ← textOf_countTerms]
  simp [textOf]

theorem textOf_clockTerms (p : Parts) : textOf p.clockTerms = writeClock p := by
  simp only [clockTerms, writeClock, ← textOf_countTerms, ← textOf_secondTerms]
  simp [textOf]

theorem calendarTerms_inOrder (p : Parts) :
    (p.calendarTerms.map Term.unit).Sublist Unit.calendar := by
  have parts := ((units_countTerms p.years .year).append
    (units_countTerms p.months .month)).append (units_countTerms p.days .day)
  have known : ([.year] ++ [.month] ++ [.day] : List Unit).Sublist Unit.calendar := by decide
  simpa [calendarTerms] using parts.trans known

theorem clockTerms_inOrder (p : Parts) : (p.clockTerms.map Term.unit).Sublist Unit.clock := by
  have parts := ((units_countTerms p.hours .hour).append
    (units_countTerms p.minutes .minute)).append (units_secondTerms p)
  simpa [clockTerms, Unit.clock] using parts

theorem clockTerms_isEmpty (p : Parts) : p.clockTerms.isEmpty = (writeClock p).isEmpty := by
  rw [← textOf_clockTerms, Bool.eq_iff_iff, List.isEmpty_iff, List.isEmpty_iff]
  constructor
  · intro empty
    rw [empty]
    rfl
  · intro nothing
    by_contra some
    exact textOf_ne_nil some nothing

end Parts

theorem parts_normal (d : Duration) : d.parts.Normal where
  months := by
    simp only [parts, Unit.micros]
    omega
  days := by
    simp only [parts, Unit.micros]
    omega
  hours := by
    simp only [parts, Unit.micros]
    omega
  minutes := by
    simp only [parts, Unit.micros]
    omega
  seconds := by
    simp only [parts, Unit.micros]
    omega
  micros := parts_micros_lt d

/-! ## The literal of a duration -/

def isWritten (amount : Unit × Nat × Nat) : Bool :=
  amount.2 != (0, 0)

/-- The amounts of the normal form: the parts that are not zero, or no seconds. -/
def writtenAmounts (d : Duration) : List (Unit × Nat × Nat) :=
  if d.isZero then [(.second, 0, 0)] else d.parts.amounts.filter isWritten

theorem readings_countTerms (n : Nat) (unit : Unit) :
    (countTerms n unit).map Term.reading = [(unit, n, 0)].filter isWritten := by
  by_cases zero : n = 0 <;>
    simp [countTerms, zero, isWritten, Term.reading_ofCount, List.filter_cons]

theorem readings_secondTerms {p : Parts} (short : p.micros < 1000000) :
    (secondTerms p).map Term.reading = [(.second, p.seconds, p.micros)].filter isWritten := by
  by_cases zero : p.micros = 0
  · simp [secondTerms, zero, readings_countTerms]
  · simp [secondTerms, zero, isWritten, Term.reading_ofSeconds _ short, List.filter_cons]

theorem readings_parts {p : Parts} (short : p.micros < 1000000) :
    (p.calendarTerms ++ p.clockTerms).map Term.reading = p.amounts.filter isWritten := by
  have apart : p.amounts = [(.year, p.years, 0)] ++ [(.month, p.months, 0)] ++
      [(.day, p.days, 0)] ++ ([(.hour, p.hours, 0)] ++ [(.minute, p.minutes, 0)] ++
        [(.second, p.seconds, p.micros)]) := rfl
  simp only [apart, Parts.calendarTerms, Parts.clockTerms, List.map_append, List.filter_append,
    readings_countTerms, readings_secondTerms short]

theorem terms_parts_ne_nil {d : Duration} (notZero : d.micros.toInt ≠ 0) :
    d.parts.calendarTerms ++ d.parts.clockTerms ≠ [] := by
  intro empty
  obtain ⟨calendar, clock⟩ := List.append_eq_nil_iff.mp empty
  have read := magnitude?_write notZero
  rw [← Parts.textOf_calendarTerms, ← Parts.textOf_clockTerms, calendar, clock] at read
  cases read

/-- What is written for a duration is a literal of its written amounts. -/
theorem exists_literal_write (d : Duration) :
    ∃ literal : Literal, literal.text = d.write ∧ literal.negative = d.isNegative ∧
      literal.terms.map Term.reading = d.writtenAmounts := by
  by_cases zero : d.micros.toInt = 0
  · have written : d.write = ['P', 'T', '0', 'S'] := by simp [write, isZero, zero]
    have sign : d.isNegative = false := by simp [isNegative, zero]
    have amounts : d.writtenAmounts = [(.second, 0, 0)] := by
      simp [writtenAmounts, isZero, zero]
    rw [written, sign, amounts]
    exact ⟨⟨false, [], [Term.ofCount 0 .second], by decide, by decide, by simp⟩, rfl, rfl,
      by simp [Literal.terms, Term.reading_ofCount]⟩
  · have long : d.isZero = false := by simpa [isZero] using zero
    refine ⟨⟨d.isNegative, d.parts.calendarTerms, d.parts.clockTerms,
      d.parts.calendarTerms_inOrder, d.parts.clockTerms_inOrder, terms_parts_ne_nil zero⟩,
      ?_, rfl, ?_⟩
    · simp only [Literal.text, Literal.body, Parts.textOf_calendarTerms,
        Parts.textOf_clockTerms, Parts.clockTerms_isEmpty]
      exact (write_of_ne_zero zero).symm
    · simp [Literal.terms, readings_parts (parts_micros_lt d), writtenAmounts, long]

/-! ## The normal form is canonical -/

theorem read?_text_toList {d : Duration} (held : Integer.least < d.micros.toInt) :
    read? d.text.toList = some d := by
  rw [text, String.toList_ofList]
  exact read?_write held

/-- A duration that was read is written in one way: its text is read as the duration
again, and another one is written alike exactly if it is as long.  The amounts of the
text are the parts of the duration that are not zero, which make up its magnitude. -/
theorem text_canonical {given : List Char} {d : Duration} (accepted : read? given = some d) :
    read? d.text.toList = some d ∧
    (∀ e, read? d.text.toList = some e → e.text = d.text) ∧
    (∀ other e, read? other = some e → (d.text = e.text ↔ d.micros = e.micros)) ∧
    d.parts.Normal ∧
    d.parts.calendarMicros + d.parts.clockMicros = d.micros.toInt.natAbs ∧
    ∃ literal : Literal, literal.text = d.text.toList ∧ literal.negative = d.isNegative ∧
      literal.terms.map Term.reading = d.writtenAmounts := by
  have again := read?_text_toList (least_lt_of_read? accepted)
  refine ⟨again, ?_, ?_, parts_normal d, micros_parts d, ?_⟩
  · intro e success
    rw [Option.some.inj (success.symm.trans again)]
  · intro other e success
    have otherAgain := read?_text_toList (least_lt_of_read? success)
    constructor
    · intro alike
      rw [alike, otherAgain] at again
      rw [Option.some.inj again]
    · intro same
      obtain ⟨micros⟩ := d
      obtain rfl : micros = e.micros := same
      rfl
  · rw [text, String.toList_ofList]
    exact exists_literal_write d

/-- Days and minutes are carried over into the units above them. -/
theorem text_canonical_carried :
    read? "P400DT90M0.50S".toList = some ⟨34565400500000⟩ ∧
      (⟨34565400500000⟩ : Duration).text = "P1Y1M5DT1H30M0.5S" ∧
      read? (⟨34565400500000⟩ : Duration).text.toList = some ⟨34565400500000⟩ ∧
      (⟨34565400500000⟩ : Duration).parts.Normal := by
  have accepted : read? "P400DT90M0.50S".toList = some ⟨34565400500000⟩ := by decide +kernel
  obtain ⟨again, _, _, normal, _⟩ := text_canonical accepted
  exact ⟨accepted, by decide +kernel, again, normal⟩

end Assessment.Duration
