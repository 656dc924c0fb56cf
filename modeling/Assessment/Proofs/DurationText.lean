import Assessment.Duration
import Assessment.Proofs.Numeral
import Assessment.Proofs.Success
import Mathlib.Data.List.TakeWhile

/-!
# Durations and their notation

What is written for a duration is read as that duration: amounts are found in the order
of their units, a unit with nothing to count is left out, and the parts make up the
magnitude.
-/

namespace Assessment.Duration

/-! ## Digits -/

theorem number_eq (digits : List Char) : number digits = Nat.ofDigitChars 10 digits 0 := by
  simp only [number, Nat.ofDigitChars, Nat.mul_comm]

theorem digits_ne_nil (n : Nat) : Integer.digits n ≠ [] :=
  Nat.toDigits_ne_nil

theorem number_digits (n : Nat) : number (Integer.digits n) = n := by
  rw [number_eq]
  exact Nat.ofDigitChars_ten_toDigits

theorem isDigit_eq (c : Char) : isDigit c = c.isDigit := by
  simp [isDigit, Char.isDigit, Char.le_def]

theorem isDigit_of_mem_digits {n : Nat} {c : Char} (member : c ∈ Integer.digits n) :
    isDigit c = true := by
  rw [isDigit_eq]
  exact Integer.isDigit_of_mem_digits member

/-! ## Amounts in the order of their units -/

/-- Characters of which amounts consist. -/
def isAmountChar (c : Char) : Bool :=
  isDigit c || c == '.'

theorem isAmountChar_designator (unit : Unit) : isAmountChar unit.designator = false := by
  cases unit <;> decide

/-- Characters are gathered up to the designator that ends the amount. -/
theorem amounts?_amount {units later : List Unit} {unit : Unit}
    (found : units.dropWhile (fun other => other.designator != unit.designator) = unit :: later)
    {pending amount : List Char} (rest : List Char)
    (chars : ∀ c ∈ amount, isAmountChar c = true) (nonempty : pending.reverse ++ amount ≠ []) :
    amounts? units pending (amount ++ unit.designator :: rest) =
      (amounts? later [] rest).map ((pending.reverse ++ amount, unit) :: ·) := by
  induction amount generalizing pending with
  | nil =>
      have ends : (isDigit unit.designator || unit.designator == '.') = false :=
        isAmountChar_designator unit
      have some : pending.isEmpty = false := by simpa using nonempty
      simp [amounts?, ends, found, some]
  | cons c amount induction =>
      have continues : (isDigit c || c == '.') = true := chars c List.mem_cons_self
      have later : amounts? units (c :: pending) (amount ++ unit.designator :: rest) =
          (amounts? later [] rest).map (((c :: pending).reverse ++ amount, unit) :: ·) :=
        induction (fun d member => chars d (List.mem_cons_of_mem c member)) (by simp)
      simpa [amounts?, continues] using later

/-- The text of an amount, its unit, and the microseconds it stands for.  Nothing is
written for an empty amount. -/
structure Amount where
  text : List Char
  unit : Unit
  micros : Nat

namespace Amount

def write (amount : Amount) : List Char :=
  if amount.text.isEmpty then [] else amount.text ++ [amount.unit.designator]

/-- The text has the characters of an amount and the stated length. -/
structure Reads (amount : Amount) : Prop where
  chars : ∀ c ∈ amount.text, isAmountChar c = true
  length : amount.text ≠ [] → amountMicros? amount.text amount.unit = some amount.micros
  nothing : amount.text = [] → amount.micros = 0

end Amount

variable {units : List Unit}

/-- The first of the units still to come is found, and the others lie behind it. -/
theorem dropWhile_designator {unit : Unit} {rest : List Unit}
    (inOrder : (unit :: rest).Sublist units) (distinct : (units.map Unit.designator).Nodup) :
    ∃ later, units.dropWhile (fun other => other.designator != unit.designator) =
        unit :: later ∧ rest.Sublist later ∧ (later.map Unit.designator).Nodup := by
  induction units with
  | nil => cases inOrder
  | cons first units induction =>
      obtain ⟨once, others⟩ := List.nodup_cons.mp distinct
      cases inOrder with
      | cons_cons _ behind => exact ⟨units, by simp, behind, others⟩
      | cons _ behind =>
          have different : first.designator ≠ unit.designator := by
            intro same
            exact once (same ▸ List.mem_map_of_mem (behind.subset List.mem_cons_self))
          obtain ⟨later, found, order, distinctLater⟩ := induction behind others
          refine ⟨later, ?_, order, distinctLater⟩
          rw [List.dropWhile_cons_of_pos (by simpa using different), found]

theorem amounts?_writeAll {amounts : List Amount}
    (inOrder : (amounts.map Amount.unit).Sublist units)
    (distinct : (units.map Unit.designator).Nodup)
    (reads : ∀ amount ∈ amounts, amount.Reads) :
    amounts? units [] (amounts.flatMap Amount.write) =
      some ((amounts.filter fun amount => !amount.text.isEmpty).map
        fun amount => (amount.text, amount.unit)) := by
  induction amounts generalizing units with
  | nil => rfl
  | cons amount amounts induction =>
      have readsLater := fun later member => reads later (List.mem_cons_of_mem amount member)
      rw [List.flatMap_cons, Amount.write]
      by_cases empty : amount.text = []
      · have skipped := induction ((List.sublist_cons_self _ _).trans inOrder) distinct
          readsLater
        simpa [empty] using skipped
      · obtain ⟨later, found, order, distinctLater⟩ := dropWhile_designator inOrder distinct
        have others := induction order distinctLater readsLater
        have head : amounts? units [] (amount.text ++ amount.unit.designator ::
              amounts.flatMap Amount.write) =
            (amounts? later [] (amounts.flatMap Amount.write)).map
              ((amount.text, amount.unit) :: ·) :=
          amounts?_amount found _ (reads amount List.mem_cons_self).chars (by simpa using empty)
        have some : amount.text.isEmpty = false := by simpa using empty
        simp [some, head, others]

/-- The amounts of a text make up its length. -/
theorem totalMicros?_writeAll {amounts : List Amount}
    (inOrder : (amounts.map Amount.unit).Sublist units)
    (distinct : (units.map Unit.designator).Nodup)
    (reads : ∀ amount ∈ amounts, amount.Reads) :
    totalMicros? units (amounts.flatMap Amount.write) =
      some ((amounts.map Amount.micros).foldl (· + ·) 0) := by
  have lengths : ((amounts.filter fun amount => !amount.text.isEmpty).map
      fun amount => (amount.text, amount.unit)).mapM (fun entry => amountMicros? entry.1 entry.2) =
      some ((amounts.filter fun amount => !amount.text.isEmpty).map Amount.micros) := by
    rw [mapM_eq_some_iff, List.forall₂_map_left_iff, List.forall₂_map_right_iff,
      List.forall₂_same]
    intro amount member
    obtain ⟨written, nonempty⟩ := List.mem_filter.mp member
    exact (reads amount written).length (by simpa using nonempty)
  have nothing : ∀ start,
      ((amounts.filter fun amount => !amount.text.isEmpty).map Amount.micros).foldl (· + ·) start =
        (amounts.map Amount.micros).foldl (· + ·) start := by
    clear inOrder lengths
    induction amounts with
    | nil => exact fun _ => rfl
    | cons amount amounts induction =>
        intro start
        have later := induction fun other member => reads other (List.mem_cons_of_mem _ member)
        by_cases empty : amount.text = []
        · have zero := (reads amount List.mem_cons_self).nothing empty
          simpa [empty, zero] using later start
        · simpa [empty] using later (start + amount.micros)
  simp only [totalMicros?, amounts?_writeAll inOrder distinct reads]
  simp [lengths, nothing]

/-! ## Single amounts -/

theorem takeWhile_isDigit_digits (n : Nat) (rest : List Char)
    (ended : ∀ c, rest.head? = some c → isDigit c = false) :
    (Integer.digits n ++ rest).takeWhile isDigit = Integer.digits n ∧
      (Integer.digits n ++ rest).dropWhile isDigit = rest := by
  have all : ∀ c ∈ Integer.digits n, isDigit c = true := fun c member =>
    isDigit_of_mem_digits member
  rw [List.takeWhile_append_of_pos all, List.dropWhile_append_of_pos all]
  cases rest with
  | nil => simp
  | cons c rest => simp [ended c rfl]

theorem amountMicros?_digits (n : Nat) (unit : Unit) :
    amountMicros? (Integer.digits n) unit = some (n * unit.micros) := by
  obtain ⟨taken, dropped⟩ := takeWhile_isDigit_digits n [] (by simp)
  rw [List.append_nil] at taken dropped
  simp [amountMicros?, taken, dropped, number_digits, digits_ne_nil]

/-- The zeros that are cut off behind a fraction make up for its missing places. -/
theorem fractionMicros_fractionDigits {micros : Nat} (short : micros < 1000000) :
    fractionMicros (fractionDigits micros) = micros := by
  have few : (Integer.digits micros).length ≤ 6 :=
    (Nat.length_toDigits_le_iff (by decide) (by decide)).mpr short
  let padded := List.replicate (6 - (Integer.digits micros).length) '0' ++ Integer.digits micros
  have places : padded.length = 6 := by simp [padded]; omega
  have whole : number padded = micros := by
    rw [number_eq, Nat.ofDigitChars_append, Nat.ofDigitChars_replicate_zero, Nat.mul_zero,
      ← number_eq, number_digits]
  let zeros := (padded.reverse.takeWhile (· == '0')).reverse
  have cut : fractionDigits micros ++ zeros = padded := by
    simp only [fractionDigits, zeros]
    rw [← List.reverse_append, List.takeWhile_append_dropWhile, List.reverse_reverse]
  have allZero : zeros = List.replicate zeros.length '0' := by
    refine List.eq_replicate_of_mem fun c member => ?_
    simpa using List.all_eq_true.mp List.all_takeWhile c (List.mem_reverse.mp member)
  have lengths : (fractionDigits micros).length + zeros.length = 6 := by
    rw [← List.length_append, cut, places]
  have kept : (fractionDigits micros).take 6 = fractionDigits micros :=
    List.take_of_length_le (by omega)
  have missing : 6 - (fractionDigits micros).length = zeros.length := by omega
  calc fractionMicros (fractionDigits micros)
      = number (fractionDigits micros) * 10 ^ zeros.length := by
        simp [fractionMicros, kept, missing]
    _ = number (fractionDigits micros ++ zeros) := by
        rw [allZero, number_eq, number_eq, Nat.ofDigitChars_append,
          Nat.ofDigitChars_replicate_zero, List.length_replicate, Nat.mul_comm]
    _ = micros := by rw [cut, whole]

theorem isDigit_of_mem_fractionDigits {micros : Nat} {c : Char}
    (member : c ∈ fractionDigits micros) : isDigit c = true := by
  have kept := (List.dropWhile_suffix _).subset (List.mem_reverse.mp member)
  rcases List.mem_append.mp (List.mem_reverse.mp kept) with zero | digit
  · rw [(List.mem_replicate.mp zero).2]
    decide
  · exact isDigit_of_mem_digits digit

theorem amountMicros?_fraction (seconds : Nat) {micros : Nat} (short : micros < 1000000) :
    amountMicros? (Integer.digits seconds ++ '.' :: fractionDigits micros) .second =
      some (seconds * Unit.second.micros + micros) := by
  obtain ⟨taken, dropped⟩ := takeWhile_isDigit_digits seconds ('.' :: fractionDigits micros)
    (by rintro c ⟨rfl⟩; decide)
  have digits : (fractionDigits micros).all isDigit = true :=
    List.all_eq_true.mpr fun c member => isDigit_of_mem_fractionDigits member
  have nonempty : (Integer.digits seconds).isEmpty = false := by simp [digits_ne_nil]
  simp only [amountMicros?, taken, dropped, number_digits, digits, nonempty,
    fractionMicros_fractionDigits short]
  rfl

/-! ## The normal form -/

/-- A whole number of units; nothing is written for zero. -/
def amountOf (n : Nat) (unit : Unit) : Amount :=
  ⟨if n = 0 then [] else Integer.digits n, unit, n * unit.micros⟩

theorem write_amountOf (n : Nat) (unit : Unit) : (amountOf n unit).write = writeAmount n unit := by
  by_cases zero : n = 0 <;> simp [amountOf, Amount.write, writeAmount, zero, digits_ne_nil]

@[simp] theorem micros_amountOf (n : Nat) (unit : Unit) :
    (amountOf n unit).micros = n * unit.micros := by
  rw [amountOf]

theorem reads_amountOf (n : Nat) (unit : Unit) : (amountOf n unit).Reads where
  chars := by
    intro c member
    by_cases zero : n = 0
    · simp [amountOf, zero] at member
    · simp only [amountOf, zero, if_false] at member
      simp [isAmountChar, isDigit_of_mem_digits member]
  length := by
    intro nonempty
    by_cases zero : n = 0
    · simp [amountOf, zero] at nonempty
    · simp only [amountOf, zero, if_false]
      exact amountMicros?_digits n unit
  nothing := by
    intro empty
    by_cases zero : n = 0
    · simp [amountOf, zero]
    · simp [amountOf, zero, digits_ne_nil] at empty

/-- Seconds with what is left below a second. -/
def secondsOf (p : Parts) : Amount :=
  if p.micros = 0 then amountOf p.seconds .second
  else
    ⟨Integer.digits p.seconds ++ '.' :: fractionDigits p.micros, .second,
      p.seconds * Unit.second.micros + p.micros⟩

theorem unit_secondsOf (p : Parts) : (secondsOf p).unit = .second := by
  unfold secondsOf
  split <;> rfl

theorem micros_secondsOf (p : Parts) :
    (secondsOf p).micros = p.seconds * Unit.second.micros + p.micros := by
  unfold secondsOf
  split
  next zero => rw [micros_amountOf, zero, Nat.add_zero]
  next => rfl

theorem write_secondsOf (p : Parts) : (secondsOf p).write = writeSeconds p := by
  by_cases zero : p.micros = 0
  · simp [secondsOf, writeSeconds, zero, write_amountOf]
  · simp [secondsOf, writeSeconds, zero, Amount.write, Unit.designator]

theorem reads_secondsOf {p : Parts} (short : p.micros < 1000000) : (secondsOf p).Reads := by
  by_cases zero : p.micros = 0
  · rw [secondsOf, if_pos zero]
    exact reads_amountOf p.seconds .second
  · refine ⟨fun c member => ?_, fun _ => ?_, fun empty => ?_⟩
    · simp only [secondsOf, zero, if_false, List.mem_append, List.mem_cons] at member
      rcases member with digit | rfl | digit
      · simp [isAmountChar, isDigit_of_mem_digits digit]
      · decide
      · simp [isAmountChar, isDigit_of_mem_fractionDigits digit]
    · simp only [secondsOf, zero, if_false]
      exact amountMicros?_fraction p.seconds short
    · simp [secondsOf, zero] at empty

theorem totalMicros?_three {first second third : Amount}
    (inOrder : [first.unit, second.unit, third.unit].Sublist units)
    (distinct : (units.map Unit.designator).Nodup)
    (firstReads : first.Reads) (secondReads : second.Reads) (thirdReads : third.Reads) :
    totalMicros? units (first.write ++ second.write ++ third.write) =
      some (first.micros + second.micros + third.micros) := by
  have reads : ∀ amount ∈ [first, second, third], amount.Reads := by
    simp [firstReads, secondReads, thirdReads]
  have order : ([first, second, third].map Amount.unit).Sublist units := inOrder
  simpa [Nat.add_assoc] using totalMicros?_writeAll order distinct reads

/-- The calendar units of a duration. -/
def writeCalendar (p : Parts) : List Char :=
  writeAmount p.years .year ++ writeAmount p.months .month ++ writeAmount p.days .day

def Parts.calendarMicros (p : Parts) : Nat :=
  p.years * Unit.year.micros + p.months * Unit.month.micros + p.days * Unit.day.micros

def Parts.clockMicros (p : Parts) : Nat :=
  p.hours * Unit.hour.micros + p.minutes * Unit.minute.micros +
    (p.seconds * Unit.second.micros + p.micros)

theorem totalMicros?_calendar (p : Parts) :
    totalMicros? Unit.calendar (writeCalendar p) = some p.calendarMicros := by
  have inOrder : ([.year, .month, .day] : List Unit).Sublist Unit.calendar := by decide
  have total := totalMicros?_three inOrder (by decide) (reads_amountOf p.years .year)
    (reads_amountOf p.months .month) (reads_amountOf p.days .day)
  rw [write_amountOf, write_amountOf, write_amountOf, micros_amountOf, micros_amountOf,
    micros_amountOf] at total
  exact total

theorem totalMicros?_clock {p : Parts} (short : p.micros < 1000000) :
    totalMicros? Unit.clock (writeClock p) = some p.clockMicros := by
  have inOrder : [Unit.hour, .minute, (secondsOf p).unit].Sublist Unit.clock := by
    rw [unit_secondsOf]
    decide
  have total := totalMicros?_three inOrder (by decide) (reads_amountOf p.hours .hour)
    (reads_amountOf p.minutes .minute) (reads_secondsOf short)
  rw [write_amountOf, write_amountOf, write_secondsOf, micros_amountOf, micros_amountOf,
    micros_secondsOf] at total
  exact total

/-- The parts of a duration make up its magnitude. -/
theorem micros_parts (d : Duration) :
    d.parts.calendarMicros + d.parts.clockMicros = d.micros.toInt.natAbs := by
  have recompose : ∀ n year month day hour minute second : Nat,
      n / year * year + n % year / month * month + n % year % month / day * day +
        (n % year % month % day / hour * hour + n % year % month % day % hour / minute * minute +
          (n % year % month % day % hour % minute / second * second +
            n % year % month % day % hour % minute % second)) = n := by
    intro n year month day hour minute second
    simp only [Nat.add_assoc, Nat.div_add_mod']
  exact recompose _ _ _ _ _ _ _

/-! ## The notation as a whole -/

theorem splitTime_of_none {date : List Char} (noTime : ∀ c ∈ date, c ≠ 'T') :
    splitTime date = (date, none) := by
  have passed : date.dropWhile (· != 'T') = [] :=
    List.dropWhile_eq_nil_iff.mpr fun c member => by simpa using noTime c member
  simp [splitTime, passed]

theorem splitTime_append {date : List Char} (noTime : ∀ c ∈ date, c ≠ 'T')
    (time : List Char) : splitTime (date ++ 'T' :: time) = (date, some time) := by
  have passed : ∀ c ∈ date, (c != 'T') = true := fun c member => by simpa using noTime c member
  simp [splitTime, List.dropWhile_append_of_pos passed, List.takeWhile_append_of_pos passed]

/-- Neither part is read as nothing, and not both are left out. -/
theorem magnitude?_eq {date clock : List Char} {days hours : Nat}
    (noTime : ∀ c ∈ date, c ≠ 'T')
    (daysRead : totalMicros? Unit.calendar date = some days)
    (hoursRead : totalMicros? Unit.clock clock = some hours) (long : days + hours ≠ 0) :
    magnitude? (date ++ if clock.isEmpty then [] else 'T' :: clock) = some (days + hours) := by
  by_cases empty : clock = []
  · subst empty
    obtain rfl : 0 = hours := Option.some.inj hoursRead
    have written : date ≠ [] := by
      rintro rfl
      exact long (Option.some.inj daysRead).symm
    have some : date.isEmpty = false := by simpa using written
    simp [magnitude?, splitTime_of_none noTime, some, daysRead]
  · have some : clock.isEmpty = false := by simpa using empty
    simp [magnitude?, splitTime_append noTime, some, daysRead, hoursRead]

theorem mem_writeAmount {n : Nat} {unit : Unit} {c : Char} (member : c ∈ writeAmount n unit) :
    isDigit c = true ∨ c = unit.designator := by
  unfold writeAmount at member
  split at member
  next => cases member
  next =>
    rcases List.mem_append.mp member with digit | designator
    · exact .inl (isDigit_of_mem_digits digit)
    · exact .inr (List.mem_singleton.mp designator)

theorem ne_time_of_mem_writeCalendar {p : Parts} {c : Char} (member : c ∈ writeCalendar p) :
    c ≠ 'T' := by
  rintro rfl
  simp only [writeCalendar, List.mem_append] at member
  rcases member with (year | month) | day
  · exact absurd (mem_writeAmount year) (by decide)
  · exact absurd (mem_writeAmount month) (by decide)
  · exact absurd (mem_writeAmount day) (by decide)

theorem parts_micros_lt (d : Duration) : d.parts.micros < 1000000 :=
  Nat.mod_lt _ (by decide)

theorem magnitude?_write {d : Duration} (notZero : d.micros.toInt ≠ 0) :
    magnitude? (writeCalendar d.parts ++
        if (writeClock d.parts).isEmpty then [] else 'T' :: writeClock d.parts) =
      some d.micros.toInt.natAbs := by
  have long : d.parts.calendarMicros + d.parts.clockMicros ≠ 0 := by
    rw [micros_parts]
    omega
  rw [magnitude?_eq (fun c => ne_time_of_mem_writeCalendar) (totalMicros?_calendar d.parts)
    (totalMicros?_clock (parts_micros_lt d)) long, micros_parts]

theorem read?_signed {negative : Bool} {body : List Char} {n : Nat}
    (magnitude : magnitude? body = some n) (inRange : Integer.fits n = true) :
    read? ((if negative then ['-'] else []) ++ 'P' :: body) =
      some ⟨if negative then -Int64.ofInt n else Int64.ofInt n⟩ := by
  cases negative <;> simp [read?, magnitude, Integer.ofInt?, inRange]

theorem toInt_signed (negative : Bool) {n : Nat} (inRange : Integer.fits n = true) :
    (if negative then -Int64.ofInt n else Int64.ofInt n).toInt =
      if negative then -(n : Int) else n := by
  rw [Integer.fits_iff, Integer.least, Integer.greatest] at inRange
  have held : (Int64.ofInt n).toInt = n := Int64.toInt_ofInt_of_le (by omega) (by omega)
  cases negative with
  | false => exact held
  | true =>
      simp only [if_true]
      rw [Int64.toInt_neg, held, Int.bmod_eq_of_le (by omega) (by omega)]

theorem write_of_ne_zero {d : Duration} (notZero : d.micros.toInt ≠ 0) :
    d.write = (if d.isNegative then ['-'] else []) ++ 'P' :: (writeCalendar d.parts ++
      if (writeClock d.parts).isEmpty then [] else 'T' :: writeClock d.parts) := by
  have long : d.isZero = false := by simpa [isZero] using notZero
  simp [write, long, writeCalendar]

/-- What is written for a duration is read as that duration.  The least one has a
magnitude that does not fit in 64 bits, so it is not read. -/
theorem read?_write {d : Duration} (held : Integer.least < d.micros.toInt) :
    read? d.write = some d := by
  by_cases zero : d.micros.toInt = 0
  · have micros : d.micros = 0 := Int64.toInt_inj.mp zero
    obtain ⟨_⟩ := d
    subst micros
    decide +kernel
  · have upper := Int64.toInt_lt d.micros
    have inRange : Integer.fits d.micros.toInt.natAbs = true := by
      rw [Integer.fits_iff, Integer.greatest]
      rw [Integer.least] at held ⊢
      omega
    have micros : (if d.isNegative then -Int64.ofInt d.micros.toInt.natAbs
        else Int64.ofInt d.micros.toInt.natAbs) = d.micros := by
      rw [← Int64.toInt_inj, toInt_signed d.isNegative inRange]
      simp only [isNegative, decide_eq_true_eq]
      split <;> omega
    rw [write_of_ne_zero zero, read?_signed (magnitude?_write zero) inRange, micros]

/-! ## Characters of the notation -/

theorem isBlank_of_mem_writeAmount {n : Nat} {unit : Unit} {c : Char}
    (member : c ∈ writeAmount n unit) : Text.isBlank c = false := by
  rcases mem_writeAmount member with digit | rfl
  · exact Integer.isBlank_of_isDigit (isDigit_eq c ▸ digit)
  · cases unit <;> decide

theorem isBlank_of_mem_writeSeconds {p : Parts} {c : Char} (member : c ∈ writeSeconds p) :
    Text.isBlank c = false := by
  unfold writeSeconds at member
  split at member
  next => exact isBlank_of_mem_writeAmount member
  next =>
    simp only [List.append_assoc, List.cons_append, List.mem_append, List.mem_cons,
      List.not_mem_nil, or_false] at member
    rcases member with digit | rfl | digit | rfl
    · exact Integer.isBlank_of_isDigit (Integer.isDigit_of_mem_digits digit)
    · decide
    · exact Integer.isBlank_of_isDigit (isDigit_eq c ▸ isDigit_of_mem_fractionDigits digit)
    · decide

theorem isBlank_of_mem_writeClock {p : Parts} {c : Char} (member : c ∈ writeClock p) :
    Text.isBlank c = false := by
  simp only [writeClock, List.mem_append] at member
  rcases member with (hours | minutes) | seconds
  · exact isBlank_of_mem_writeAmount hours
  · exact isBlank_of_mem_writeAmount minutes
  · exact isBlank_of_mem_writeSeconds seconds

theorem isBlank_of_mem_writeCalendar {p : Parts} {c : Char} (member : c ∈ writeCalendar p) :
    Text.isBlank c = false := by
  simp only [writeCalendar, List.mem_append] at member
  rcases member with (years | months) | days
  · exact isBlank_of_mem_writeAmount years
  · exact isBlank_of_mem_writeAmount months
  · exact isBlank_of_mem_writeAmount days

theorem isBlank_of_mem_write {d : Duration} {c : Char} (member : c ∈ d.write) :
    Text.isBlank c = false := by
  by_cases zero : d.micros.toInt = 0
  · have written : d.write = ['P', 'T', '0', 'S'] := by simp [write, isZero, zero]
    rw [written] at member
    simp only [List.mem_cons, List.not_mem_nil, or_false] at member
    rcases member with rfl | rfl | rfl | rfl <;> decide
  · rw [write_of_ne_zero zero] at member
    rcases List.mem_append.mp member with sign | body
    · obtain ⟨_, rfl⟩ : d.isNegative = true ∧ c = '-' := by simpa using sign
      decide
    rcases List.mem_cons.mp body with rfl | amounts
    · decide
    rcases List.mem_append.mp amounts with calendar | clock
    · exact isBlank_of_mem_writeCalendar calendar
    split at clock
    next => cases clock
    next =>
      rcases List.mem_cons.mp clock with rfl | time
      · decide
      · exact isBlank_of_mem_writeClock time

/-- What is read has a `P` behind an optional sign, and a magnitude that fits in
64 bits. -/
theorem eq_of_read?_eq_some {text : List Char} {d : Duration} (success : read? text = some d) :
    ∃ (negative : Bool) (body : List Char) (n : Nat),
      text = (if negative then ['-'] else []) ++ 'P' :: body ∧ magnitude? body = some n ∧
        Integer.fits n = true ∧ d.micros.toInt = if negative then -(n : Int) else n := by
  unfold read? at success
  split at success
  next negative signed opened =>
    split at success
    next body =>
      obtain ⟨n, magnitude, rest⟩ := Option.bind_eq_some_iff.mp success
      obtain ⟨micros, held, together⟩ := Option.bind_eq_some_iff.mp rest
      cases together
      obtain ⟨inRange, ⟨⟩⟩ := Option.ite_none_right_eq_some.mp held
      refine ⟨negative, body, n, ?_, magnitude, inRange, toInt_signed negative inRange⟩
      split at opened <;> cases opened <;> rfl
    next => cases success

/-- The least duration is never read: its magnitude does not fit in 64 bits. -/
theorem least_lt_of_read? {text : List Char} {d : Duration} (success : read? text = some d) :
    Integer.least < d.micros.toInt := by
  obtain ⟨negative, _, n, _, _, inRange, micros⟩ := eq_of_read?_eq_some success
  rw [Integer.fits_iff, Integer.greatest] at inRange
  rw [Integer.least, micros]
  split <;> omega

end Assessment.Duration
