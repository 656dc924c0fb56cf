import Assessment.Proofs.DurationGrammar
import Assessment.Proofs.IntegerLiteral
import Assessment.Proofs.MachineWord

/-!
# Durations summed up in words

A machine reads a duration amount by amount: each number is read into a word of its own, and
each product and each sum is checked.  None of these checks refuses a text that the one check
of the whole sum would let pass, because amounts are not negative, so that no part of a sum is
greater than the sum.  The main statement is `readLoop?_eq_read?`.
-/

namespace Assessment.Duration

/-! ## The loop -/

/-- Adds a number of units to a total. -/
def accumulate? (total count : Int) (unit : Nat) : Option Int := do
  let part ← Word.long.hold? (count * unit)
  Word.long.hold? (total + part)

/-- Adds up the microseconds of the digits behind a point, which is `place` places away. -/
def addPlaces (micros place : Nat) : List Char → Nat
  | [] => micros
  | c :: rest => addPlaces (micros + (c.toNat - '0'.toNat) * 10 ^ (5 - place)) (place + 1) rest

/-- The microseconds of an amount of seconds; digits after the sixth are ignored. -/
def secondsMicros? (amount : List Char) : Option Int :=
  let whole := amount.takeWhile (· != '.')
  let fraction := (amount.dropWhile (· != '.')).tail
  if whole.isEmpty || !fraction.all isDigit then none
  else do
    let count ← Integer.read? whole
    accumulate? (addPlaces 0 0 (fraction.take 6)) count.toInt Unit.second.micros

/-- Adds an amount to a total.  Seconds are counted in microseconds before. -/
def addAmount? (total : Int) (amount : List Char × Unit) : Option Int :=
  match amount.2 with
  | .second => do
      let micros ← secondsMicros? amount.1
      accumulate? total micros 1
  | unit => do
      let count ← Integer.read? amount.1
      accumulate? total count.toInt unit.micros

def addAmounts? (units : List Unit) (text : List Char) (total : Int) : Option Int := do
  let amounts ← amounts? units [] text
  amounts.foldlM addAmount? total

def magnitudeLoop? (text : List Char) : Option Int :=
  match splitTime text with
  | (date, none) => if date.isEmpty then none else addAmounts? Unit.calendar date 0
  | (date, some time) =>
      if time.isEmpty then none
      else do
        let days ← addAmounts? Unit.calendar date 0
        addAmounts? Unit.clock time days

/-- `read?` with its loops. -/
def readLoop? (text : List Char) : Option Duration := do
  let (negative, body) :=
    match text with
    | '-' :: rest => (true, rest)
    | _ => (false, text)
  match body with
  | 'P' :: rest =>
      let total ← magnitudeLoop? rest
      let micros ← Word.long.hold? (if negative then -total else total)
      return ⟨Int64.ofInt micros⟩
  | _ => none

/-! ## Checked sums -/

variable {total n m : Int}

/-- What is too great stays so when something is added. -/
theorem hold?_eq_none_of_le (nonneg : 0 ≤ n) (overflows : ¬Word.long.Holds n) (le : n ≤ m) :
    Word.long.hold? m = none := by
  apply Word.hold?_eq_none
  simp only [Word.Holds, Word.long, Integer.least] at overflows ⊢
  omega

theorem hold?_bind_hold? (nonneg : 0 ≤ total) (positive : 0 ≤ n) :
    (Word.long.hold? n).bind (fun part => Word.long.hold? (total + part)) =
      Word.long.hold? (total + n) := by
  by_cases holds : Word.long.Holds n
  · rw [Word.hold?_eq_some holds, Option.bind_some]
  · rw [Word.hold?_eq_none holds, hold?_eq_none_of_le positive holds (by omega),
      Option.bind_none]

theorem accumulate?_eq (unit : Nat) (nonneg : 0 ≤ total) (positive : 0 ≤ n) :
    accumulate? total n unit = Word.long.hold? (total + n * unit) :=
  hold?_bind_hold? nonneg (Int.mul_nonneg positive (Int.natCast_nonneg unit))

/-! ## Numbers of one amount -/

/-- A number that is too great for a word is also too great with its unit. -/
theorem read?_bind_accumulate? {digits : List Char} (isDigits : Text.IsDigits digits)
    (unit : Unit) (nonneg : 0 ≤ total) :
    ((Integer.read? digits).bind fun count => accumulate? total count.toInt unit.micros) =
      Word.long.hold? (total + number digits * unit.micros) := by
  cases read : Integer.read? digits with
  | some count =>
      have value : count.toInt = number digits := by
        rw [number_eq]
        exact (Integer.read?_eq_some_iff.mp read).eq_of_isDigits isDigits
      rw [Option.bind_some, value, accumulate?_eq _ nonneg (Int.natCast_nonneg _)]
  | none =>
      have overflows : ¬Word.long.Holds (number digits) := by
        intro holds
        obtain ⟨count, value⟩ := Word.exists_of_holds holds
        have numeral : Integer.Numeral digits count.toInt := by
          rw [value, number_eq]
          exact .unsigned isDigits
        rw [Integer.read?_eq_some_iff.mpr numeral] at read
        cases read
      have long : 1 ≤ unit.micros := by cases unit <;> decide
      have scaled : number digits ≤ number digits * unit.micros := Nat.le_mul_of_pos_right _ long
      rw [hold?_eq_none_of_le (Int.natCast_nonneg _) overflows (by omega), Option.bind_none]

/-- What has a point is no number. -/
theorem read?_point (whole fraction : List Char) (allDigits : ∀ c ∈ whole, isDigit c = true) :
    Integer.read? (whole ++ '.' :: fraction) = none := by
  rw [Option.eq_none_iff_forall_ne_some]
  intro i read
  have point : ∀ {digits : List Char}, '.' ∈ digits → ¬Text.IsDigits digits :=
    fun member isDigits => absurd (isDigits.2 '.' member) (by decide)
  have numeral := Integer.read?_eq_some_iff.mp read
  generalize i.toInt = n at numeral
  cases whole with
  | nil =>
      cases numeral with
      | unsigned isDigits => exact point (by simp) isDigits
  | cons c whole =>
      have digit := allDigits c List.mem_cons_self
      cases numeral with
      | unsigned isDigits => exact point (by simp) isDigits
      | plus | minus => exact absurd digit (by decide)

/-! ## Amounts -/

/-- An amount is a number, or it has a point behind digits. -/
theorem amount_cases {amount : List Char} (chars : ∀ c ∈ amount, isAmountChar c = true) :
    (∀ c ∈ amount, isDigit c = true) ∨
      ∃ whole fraction, amount = whole ++ '.' :: fraction ∧ ∀ c ∈ whole, isDigit c = true := by
  induction amount with
  | nil => exact .inl nofun
  | cons c rest induction =>
      obtain ⟨here, later⟩ := List.forall_mem_cons.mp chars
      rcases Bool.or_eq_true_iff.mp here with digit | point
      · rcases induction later with allDigits | ⟨whole, fraction, rfl, allDigits⟩
        · exact .inl (List.forall_mem_cons.mpr ⟨digit, allDigits⟩)
        · exact .inr ⟨c :: whole, fraction, rfl, List.forall_mem_cons.mpr ⟨digit, allDigits⟩⟩
      · obtain rfl : c = '.' := by simpa using point
        exact .inr ⟨[], rest, rfl, nofun⟩

variable {whole : List Char}

theorem amountMicros?_whole (allDigits : ∀ c ∈ whole, isDigit c = true) (unit : Unit) :
    amountMicros? whole unit =
      if whole.isEmpty then none else some (number whole * unit.micros) := by
  have taken : whole.takeWhile isDigit = whole := List.takeWhile_eq_self_iff.mpr allDigits
  have dropped : whole.dropWhile isDigit = [] := List.dropWhile_eq_nil_iff.mpr allDigits
  rw [amountMicros?, taken, dropped]

theorem amountMicros?_point (allDigits : ∀ c ∈ whole, isDigit c = true) (fraction : List Char)
    (unit : Unit) :
    amountMicros? (whole ++ '.' :: fraction) unit =
      if unit == .second && !whole.isEmpty && fraction.all isDigit then
        some (number whole * unit.micros + fractionMicros fraction)
      else none := by
  have point : isDigit '.' = false := by decide
  have taken : (whole ++ '.' :: fraction).takeWhile isDigit = whole := by
    rw [List.takeWhile_append_of_pos allDigits, List.takeWhile_cons_of_neg (by simp [point]),
      List.append_nil]
  have dropped : (whole ++ '.' :: fraction).dropWhile isDigit = '.' :: fraction := by
    rw [List.dropWhile_append_of_pos allDigits, List.dropWhile_cons_of_neg (by simp [point])]
  rw [amountMicros?, taken, dropped]

theorem number_cons (c : Char) (rest : List Char) :
    number (c :: rest) = (c.toNat - '0'.toNat) * 10 ^ rest.length + number rest := by
  rw [number_eq, number_eq, Nat.ofDigitChars_cons, Nat.ofDigitChars_eq_ofDigitChars_zero,
    Nat.mul_zero, Nat.zero_add, Nat.mul_comm]

/-- The places of a fraction, one after another. -/
theorem addPlaces_eq {digits : List Char} {place : Nat} (micros : Nat)
    (few : place + digits.length ≤ 6) :
    addPlaces micros place digits =
      micros + number digits * 10 ^ (6 - (place + digits.length)) := by
  induction digits generalizing micros place with
  | nil => simp [addPlaces, number]
  | cons c rest induction =>
      have shift : place + 1 + rest.length = place + (c :: rest).length := by
        rw [List.length_cons]
        omega
      have scale : 10 ^ (5 - place) =
          10 ^ rest.length * 10 ^ (6 - (place + (c :: rest).length)) := by
        rw [List.length_cons] at few ⊢
        rw [← Nat.pow_add]
        congr 1
        omega
      rw [addPlaces, induction _ (by omega), shift, scale, number_cons, Nat.add_mul,
        Nat.mul_assoc, Nat.add_assoc]

theorem addPlaces_take (fraction : List Char) :
    addPlaces 0 0 (fraction.take 6) = fractionMicros fraction := by
  have few : 0 + (fraction.take 6).length ≤ 6 := by
    rw [Nat.zero_add]
    exact List.length_take_le 6 fraction
  rw [addPlaces_eq 0 few, Nat.zero_add, Nat.zero_add]
  rfl

/-- Seconds are told by the digits before the point and those behind it. -/
theorem secondsMicros?_of_parts {amount fraction : List Char}
    (allDigits : ∀ c ∈ whole, isDigit c = true)
    (before : amount.takeWhile (· != '.') = whole)
    (behind : (amount.dropWhile (· != '.')).tail = fraction) :
    secondsMicros? amount =
      if whole.isEmpty || !fraction.all isDigit then none
      else Word.long.hold? (number whole * Unit.second.micros + fractionMicros fraction : Nat) := by
  simp only [secondsMicros?, before, behind, addPlaces_take]
  split
  next => rfl
  next filled =>
    have isDigits : Text.IsDigits whole := by
      refine ⟨?_, fun c member => isDigit_eq c ▸ allDigits c member⟩
      rintro rfl
      exact filled rfl
    rw [Int.natCast_add, Int.natCast_mul, Int.add_comm]
    exact read?_bind_accumulate? isDigits .second (Int.natCast_nonneg _)

theorem secondsMicros?_eq {amount : List Char} (chars : ∀ c ∈ amount, isAmountChar c = true) :
    secondsMicros? amount =
      (amountMicros? amount .second).bind fun micros => Word.long.hold? micros := by
  have noPoint : ∀ {whole : List Char}, (∀ c ∈ whole, isDigit c = true) →
      ∀ c ∈ whole, (c != '.') = true := by
    intro whole allDigits c member
    rw [bne_iff_ne]
    rintro rfl
    exact absurd (allDigits '.' member) (by decide)
  rcases amount_cases chars with allDigits | ⟨whole, fraction, rfl, allDigits⟩
  · have taken := List.takeWhile_eq_self_iff.mpr (noPoint allDigits)
    have dropped := List.dropWhile_eq_nil_iff.mpr (noPoint allDigits)
    have nothing : fractionMicros [] = 0 := rfl
    rw [secondsMicros?_of_parts allDigits taken (congrArg List.tail dropped),
      amountMicros?_whole allDigits, List.tail_nil, nothing, Nat.add_zero]
    by_cases empty : amount.isEmpty = true
    · rw [if_pos (by simp [empty]), if_pos empty, Option.bind_none]
    · rw [if_neg (by simp [empty]), if_neg empty, Option.bind_some]
  · have taken : (whole ++ '.' :: fraction).takeWhile (· != '.') = whole := by
      rw [List.takeWhile_append_of_pos (noPoint allDigits)]
      simp
    have dropped : ((whole ++ '.' :: fraction).dropWhile (· != '.')).tail = fraction := by
      rw [List.dropWhile_append_of_pos (noPoint allDigits)]
      simp
    rw [secondsMicros?_of_parts allDigits taken dropped, amountMicros?_point allDigits]
    have opposite : (Unit.second == .second && !whole.isEmpty && fraction.all isDigit) =
        !(whole.isEmpty || !fraction.all isDigit) := by simp
    rw [opposite]
    by_cases refused : (whole.isEmpty || !fraction.all isDigit) = true
    · rw [if_pos refused, if_neg (by simp [refused]), Option.bind_none]
    · rw [if_neg refused, if_pos (by simp [refused]), Option.bind_some]

/-! ## Sums of amounts -/

/-- The check of one amount is a check of the sum so far. -/
theorem addAmount?_eq {amount : List Char} (chars : ∀ c ∈ amount, isAmountChar c = true)
    (unit : Unit) (nonneg : 0 ≤ total) :
    addAmount? total (amount, unit) =
      (amountMicros? amount unit).bind fun micros => Word.long.hold? (total + micros) := by
  by_cases second : unit = .second
  · subst second
    have step : addAmount? total (amount, .second) =
        (secondsMicros? amount).bind fun micros => accumulate? total micros 1 := rfl
    rw [step, secondsMicros?_eq chars]
    cases amountMicros? amount .second with
    | none => rfl
    | some micros =>
        have checked := hold?_bind_hold? nonneg (Int.natCast_nonneg micros)
        rw [Option.bind_some, Option.bind_some, ← checked]
        by_cases holds : Word.long.Holds micros
        · rw [Word.hold?_eq_some holds, Option.bind_some, Option.bind_some,
            accumulate?_eq 1 nonneg (Int.natCast_nonneg micros), Int.natCast_one, Int.mul_one]
        · rw [Word.hold?_eq_none holds, Option.bind_none, Option.bind_none]
  · have step : addAmount? total (amount, unit) =
        (Integer.read? amount).bind fun count =>
          accumulate? total count.toInt unit.micros := by
      cases unit with
      | second => exact absurd rfl second
      | _ => rfl
    rw [step]
    rcases amount_cases chars with allDigits | ⟨whole, fraction, rfl, allDigits⟩
    · rw [amountMicros?_whole allDigits]
      cases amount with
      | nil => rfl
      | cons c rest =>
          have isDigits : Text.IsDigits (c :: rest) :=
            ⟨List.cons_ne_nil c rest, fun d member => isDigit_eq d ▸ allDigits d member⟩
          rw [read?_bind_accumulate? isDigits unit nonneg]
          simp
    · have other : (unit == .second) = false := beq_eq_false_iff_ne.mpr second
      rw [read?_point whole fraction allDigits, amountMicros?_point allDigits, other]
      rfl

/-- The checks of all amounts are one check of their sum. -/
theorem foldlM_addAmount?_eq {amounts : List (List Char × Unit)}
    (chars : ∀ amount ∈ amounts, ∀ c ∈ amount.1, isAmountChar c = true) (nonneg : 0 ≤ total)
    (holds : Word.long.Holds total) :
    amounts.foldlM addAmount? total =
      (amounts.mapM fun amount => amountMicros? amount.1 amount.2).bind fun lengths =>
        Word.long.hold? (total + lengths.sum) := by
  induction amounts generalizing total with
  | nil =>
      have same : total + (([] : List Nat).sum : Nat) = total := Int.add_zero total
      exact (Word.hold?_eq_some holds).symm.trans (congrArg Word.long.hold? same.symm)
  | cons amount amounts induction =>
      obtain ⟨here, later⟩ := List.forall_mem_cons.mp chars
      rw [List.foldlM_cons, addAmount?_eq here amount.2 nonneg, List.mapM_cons]
      cases amountMicros? amount.1 amount.2 with
      | none => rfl
      | some micros =>
          have sums : ∀ lengths : List Nat, total + ((micros :: lengths).sum : Nat) =
              total + micros + (lengths.sum : Nat) := by
            intro lengths
            rw [List.sum_cons]
            omega
          by_cases next : Word.long.Holds (total + micros)
          · rw [Option.bind_some, Word.hold?_eq_some next]
            refine (induction later (by omega) next).trans ?_
            cases amounts.mapM fun amount => amountMicros? amount.1 amount.2 with
            | none => rfl
            | some lengths => exact congrArg Word.long.hold? (sums lengths).symm
          · rw [Option.bind_some, Word.hold?_eq_none next]
            cases amounts.mapM fun amount => amountMicros? amount.1 amount.2 with
            | none => rfl
            | some lengths =>
                have longer : total + micros ≤ total + ((micros :: lengths).sum : Nat) := by
                  rw [sums]
                  omega
                exact (hold?_eq_none_of_le (by omega) next longer).symm

theorem addAmounts?_eq {units : List Unit} {text : List Char} (nonneg : 0 ≤ total)
    (holds : Word.long.Holds total) :
    addAmounts? units text total =
      (totalMicros? units text).bind fun micros => Word.long.hold? (total + micros) := by
  rw [addAmounts?, totalMicros?]
  cases found : amounts? units [] text with
  | none => rfl
  | some amounts =>
      have chars := (amounts?_eq_some (by simp) found).2.2
      rw [Option.bind_eq_bind, Option.bind_some, foldlM_addAmount?_eq chars nonneg holds,
        Option.bind_eq_bind, Option.bind_some]
      cases amounts.mapM fun amount => amountMicros? amount.1 amount.2 with
      | none => rfl
      | some lengths =>
          exact congrArg (fun sum : Nat => Word.long.hold? (total + sum)) List.sum_eq_foldl

theorem magnitudeLoop?_eq (text : List Char) :
    magnitudeLoop? text = (magnitude? text).bind fun micros => Word.long.hold? micros := by
  have zero : Word.long.Holds 0 := by decide
  have start : ∀ {units : List Unit} {text : List Char}, addAmounts? units text 0 =
      (totalMicros? units text).bind fun micros => Word.long.hold? micros := by
    intro units text
    simp only [addAmounts?_eq (Int.le_refl 0) zero, Int.zero_add]
  rcases apart : splitTime text with ⟨date, _ | time⟩
  · simp only [magnitudeLoop?, magnitude?, apart]
    split
    next => rfl
    next => exact start
  · simp only [magnitudeLoop?, magnitude?, apart]
    split
    next => rfl
    next =>
      rw [start]
      cases totalMicros? Unit.calendar date with
      | none => rfl
      | some days =>
          have nonneg : (0 : Int) ≤ days := Int.natCast_nonneg days
          by_cases holds : Word.long.Holds days
          · rw [Option.bind_some, Word.hold?_eq_some holds, Option.bind_eq_bind, Option.bind_some,
              addAmounts?_eq nonneg holds]
            cases totalMicros? Unit.clock time with
            | none => simp
            | some hours => exact congrArg Word.long.hold? (Int.natCast_add days hours).symm
          · rw [Option.bind_some, Word.hold?_eq_none holds]
            cases totalMicros? Unit.clock time with
            | none => rfl
            | some hours =>
                have longer : (days : Int) ≤ (days + hours : Nat) := by omega
                exact (hold?_eq_none_of_le nonneg holds longer).symm

/-- The sum can be negated, as the least word is no sum. -/
theorem hold?_bind_signed (negative : Bool) (n : Nat) :
    ((Word.long.hold? n).bind fun total =>
      (Word.long.hold? (if negative then -total else total)).map fun micros =>
        (⟨Int64.ofInt micros⟩ : Duration)) =
      (Integer.ofInt? n).map fun micros => ⟨if negative then -micros else micros⟩ := by
  by_cases holds : Word.long.Holds n
  · have signed : Word.long.Holds (if negative then -(n : Int) else n) := by
      simp only [Word.Holds, Word.long, Integer.least, Integer.greatest] at holds ⊢
      split <;> omega
    rw [Word.hold?_eq_some holds, Option.bind_some, Word.hold?_eq_some signed,
      Integer.ofInt?, if_pos (Word.fits_iff.mpr holds)]
    cases negative with
    | false => rfl
    | true => simp [Int64.ofInt_neg]
  · have unfit : ¬Integer.fits n = true := fun fits => holds (Word.fits_iff.mp fits)
    rw [Word.hold?_eq_none holds, Option.bind_none, Integer.ofInt?, if_neg unfit,
      Option.map_none]

/-- Reading with a check at each step gives what reading with one check at the end gives. -/
theorem readLoop?_eq_read? (text : List Char) : readLoop? text = read? text := by
  have magnitudes : ∀ (negative : Bool) (rest : List Char),
      (do
        let total ← magnitudeLoop? rest
        let micros ← Word.long.hold? (if negative then -total else total)
        return ⟨Int64.ofInt micros⟩ : Option Duration) =
      (do
        let total ← magnitude? rest
        let micros ← Integer.ofInt? total
        return ⟨if negative then -micros else micros⟩) := by
    intro negative rest
    rw [magnitudeLoop?_eq]
    cases magnitude? rest with
    | none => simp
    | some n => simpa [Option.map_eq_bind, Function.comp_def] using hold?_bind_signed negative n
  simp only [readLoop?, magnitudes]
  rfl

end Assessment.Duration
