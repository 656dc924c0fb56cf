import Assessment.Proofs.ScalarText
import Assessment.Proofs.Success

/-!
# Literals of integers

A numeral is a sign or none in front of digits.  The reader of integers takes the numerals
whose numbers fit in 64 bits.  Scalars have a plus sign of their own in front of what that
reader takes, so that they are also read from numerals with a plus sign before their sign.
Points and `intOrIdentifier` scalars are read by the same rule.
-/

namespace Assessment

/-- ASCII digits, at least one. -/
def Text.IsDigits (text : List Char) : Prop :=
  text ≠ [] ∧ ∀ c ∈ text, c.isDigit = true

namespace Integer

open Text (IsDigits)

variable {text digits : List Char}

/-- The numerals of integers, and the numbers that they denote. -/
inductive Numeral : List Char → Int → Prop where
  | unsigned {digits : List Char} (isDigits : IsDigits digits) :
      Numeral digits (Nat.ofDigitChars 10 digits 0)
  | plus {digits : List Char} (isDigits : IsDigits digits) :
      Numeral ('+' :: digits) (Nat.ofDigitChars 10 digits 0)
  | minus {digits : List Char} (isDigits : IsDigits digits) :
      Numeral ('-' :: digits) (-(Nat.ofDigitChars 10 digits 0 : Int))

/-- A plus sign before the sign of a numeral. -/
inductive TwiceSigned : List Char → Int → Prop where
  | mk {sign : Char} {digits : List Char} {n : Int} (isSign : sign = '+' ∨ sign = '-')
      (numeral : Numeral (sign :: digits) n) : TwiceSigned ('+' :: sign :: digits) n

/-- The notations of integers in scalars. -/
def Readable (text : List Char) (n : Int) : Prop :=
  Numeral text n ∨ TwiceSigned text n

/-! ## Numerals -/

/-- No numeral has two signs. -/
theorem TwiceSigned.not_numeral {n m : Int} (twice : TwiceSigned text n) : ¬Numeral text m := by
  have noSign {sign : Char} {digits : List Char} (isSign : sign = '+' ∨ sign = '-') :
      ¬IsDigits (sign :: digits) := by
    intro isDigits
    have digit := isDigits.2 sign List.mem_cons_self
    rcases isSign with rfl | rfl
    · exact absurd digit (by decide)
    · exact absurd digit (by decide)
  obtain ⟨isSign, _⟩ := twice
  intro numeral
  cases numeral with
  | unsigned isDigits => exact noSign (.inl rfl) isDigits
  | plus isDigits => exact noSign isSign isDigits

theorem Numeral.eq_of_isDigits {n : Int} (numeral : Numeral text n) (isDigits : IsDigits text) :
    n = Nat.ofDigitChars 10 text 0 := by
  cases numeral with
  | unsigned => rfl
  | plus | minus => exact absurd (isDigits.2 _ List.mem_cons_self) (by decide)

theorem Numeral.isWord {n : Int} (numeral : Numeral text n) : Text.IsWord text := by
  have noBlank {digits : List Char} (isDigits : IsDigits digits) :
      ∀ c ∈ digits, Text.isBlank c = false := fun c member =>
    isBlank_of_isDigit (isDigits.2 c member)
  cases numeral with
  | unsigned isDigits => exact ⟨isDigits.1, noBlank isDigits⟩
  | plus isDigits | minus isDigits =>
      exact ⟨by simp, List.forall_mem_cons.mpr ⟨by decide, noBlank isDigits⟩⟩

/-- Digits, and the number with their sign, as the reader of integers takes them. -/
theorem map_readDigits_iff {negative : Bool} {i : Int64} (nonempty : digits ≠ []) :
    (readDigits negative 0 digits).map Int64.ofInt = .ok i ↔
      IsDigits digits ∧ i.toInt = signed negative (Nat.ofDigitChars 10 digits 0) := by
  have zero : (0 : Int) = signed negative (0 : Nat) := by cases negative <;> rfl
  rw [map_eq_ok_iff, zero]
  constructor
  · rintro ⟨n, read, rfl⟩
    have start : fits (signed negative (0 : Nat)) = true := by cases negative <;> rfl
    obtain ⟨allDigits, whole, inRange⟩ := digits_of_readDigits start read
    rw [← whole]
    exact ⟨⟨nonempty, allDigits⟩, toInt_ofInt?_eq (if_pos inRange)⟩
  · rintro ⟨isDigits, value⟩
    have inRange : fits (signed negative (Nat.ofDigitChars 10 digits 0)) = true := by
      rw [← value]
      exact fits_toInt i
    exact ⟨_, readDigits_eq 0 isDigits.2 inRange, by rw [← value]; exact Int64.ofInt_toInt i⟩

theorem read_of_isDigits (isDigits : IsDigits digits) :
    read digits = (readDigits false 0 digits).map Int64.ofInt := by
  obtain ⟨c, rest, rfl⟩ := List.exists_cons_of_ne_nil isDigits.1
  have digit := isDigits.2 c List.mem_cons_self
  have notPlus : c ≠ '+' := by rintro rfl; exact absurd digit (by decide)
  have notMinus : c ≠ '-' := by rintro rfl; exact absurd digit (by decide)
  rw [read]
  all_goals simp_all

/-- The reader of integers takes the numerals whose numbers fit in 64 bits. -/
theorem read?_eq_some_iff {i : Int64} : read? text = some i ↔ Numeral text i.toInt := by
  have toOption : read? text = some i ↔ read text = .ok i := by
    rw [read?]
    cases read text <;> simp [Except.toOption]
  rw [toOption]
  constructor
  · intro success
    unfold read at success
    split at success
    next => cases success
    next => cases success
    next => cases success
    next digits nonempty =>
      obtain ⟨isDigits, value⟩ := (map_readDigits_iff (by simpa using nonempty)).mp success
      rw [value]
      exact .plus isDigits
    next digits nonempty =>
      obtain ⟨isDigits, value⟩ := (map_readDigits_iff (by simpa using nonempty)).mp success
      rw [value]
      exact .minus isDigits
    next nonempty _ _ _ _ =>
      obtain ⟨isDigits, value⟩ := (map_readDigits_iff (by simpa using nonempty)).mp success
      rw [value]
      exact .unsigned isDigits
  · intro numeral
    generalize value : i.toInt = n at numeral
    cases numeral with
    | unsigned isDigits =>
        rw [read_of_isDigits isDigits]
        exact (map_readDigits_iff isDigits.1).mpr ⟨isDigits, value⟩
    | plus isDigits =>
        rw [read]
        · exact (map_readDigits_iff isDigits.1).mpr ⟨isDigits, value⟩
        · simpa using isDigits.1
    | minus isDigits =>
        rw [read]
        · exact (map_readDigits_iff isDigits.1).mpr ⟨isDigits, value⟩
        · simpa using isDigits.1

end Integer

namespace Scalar

open Integer (Numeral TwiceSigned Readable)

variable {text : List Char} {i : Int64}

theorem isWord_of_readable {n : Int} (literal : Readable text n) : Text.IsWord text := by
  rcases literal with numeral | ⟨isSign, numeral⟩
  · exact numeral.isWord
  · exact ⟨by simp, List.forall_mem_cons.mpr ⟨by decide, numeral.isWord.2⟩⟩

theorem readInteger?_eq_some_iff : readInteger? text = some i ↔ Readable text i.toInt := by
  unfold readInteger?
  split
  next rest =>
    rw [Integer.read?_eq_some_iff]
    constructor
    · intro numeral
      generalize i.toInt = n at numeral ⊢
      cases numeral with
      | unsigned isDigits => exact .inl (.plus isDigits)
      | plus isDigits => exact .inr (.mk (.inl rfl) (.plus isDigits))
      | minus isDigits => exact .inr (.mk (.inr rfl) (.minus isDigits))
    · intro literal
      generalize i.toInt = n at literal ⊢
      rcases literal with numeral | twice
      · cases numeral with
        | unsigned isDigits => exact absurd (isDigits.2 '+' List.mem_cons_self) (by decide)
        | plus isDigits => exact .unsigned isDigits
      · cases twice with
        | mk isSign numeral => exact numeral
  next text noPlus =>
    rw [Integer.read?_eq_some_iff]
    refine ⟨.inl, ?_⟩
    rintro (numeral | ⟨isSign, numeral⟩)
    · exact numeral
    · exact absurd rfl (noPlus _)

theorem readPoint?_eq_some_iff {x y : Int64} :
    readPoint? (Text.trim text) = some ⟨x, y⟩ ↔
      ∃ first gap second, Text.trim text = first ++ gap ++ second ∧ gap ≠ [] ∧
        (∀ c ∈ gap, Text.isBlank c = true) ∧ Readable first x.toInt ∧ Readable second y.toInt := by
  have two {first second : List Char} :
      readTwo? (Text.trim text) = some (first, second) ↔
        Text.words (Text.trim text) = [first, second] := by
    unfold readTwo?
    split
    next words => simp [words]
    next other => simpa using other first second
  constructor
  · intro success
    obtain ⟨⟨first, second⟩, parts, rest⟩ := Option.bind_eq_some_iff.mp success
    obtain ⟨a, firstRead, rest⟩ := Option.bind_eq_some_iff.mp rest
    obtain ⟨b, secondRead, together⟩ := Option.bind_eq_some_iff.mp rest
    cases together
    obtain ⟨gap, whole, nonempty, blanks, _⟩ := Text.words_trim_eq_pair_iff.mp (two.mp parts)
    exact ⟨first, gap, second, whole, nonempty, blanks, readInteger?_eq_some_iff.mp firstRead,
      readInteger?_eq_some_iff.mp secondRead⟩
  · rintro ⟨first, gap, second, whole, nonempty, blanks, firstLiteral, secondLiteral⟩
    have parts := two.mpr (Text.words_trim_eq_pair_iff.mpr ⟨gap, whole, nonempty, blanks,
      isWord_of_readable firstLiteral, isWord_of_readable secondLiteral⟩)
    simp [readPoint?, parts, readInteger?_eq_some_iff.mpr firstLiteral,
      readInteger?_eq_some_iff.mpr secondLiteral]

theorem readIntOrIdentifier?_eq_some_iff {value : IntOrIdentifier} :
    readIntOrIdentifier? text = some value ↔
      (∃ i : Int64, value = .integer i ∧ Readable text i.toInt) ∨
        ∃ name, value = .identifier name ∧ name.toList = text ∧ Text.IsWord text ∧
          ∀ i : Int64, ¬Readable text i.toInt := by
  unfold readIntOrIdentifier?
  split
  next i found =>
    have literal := readInteger?_eq_some_iff.mp found
    constructor
    · rintro ⟨⟩
      exact .inl ⟨i, rfl, literal⟩
    · rintro (⟨j, rfl, other⟩ | ⟨_, _, _, _, noLiteral⟩)
      · have same : some j = some i := (readInteger?_eq_some_iff.mpr other).symm.trans found
        cases same
        rfl
      · exact absurd literal (noLiteral i)
  next missing =>
    have noLiteral (i : Int64) : ¬Readable text i.toInt := by
      rw [← readInteger?_eq_some_iff, missing]
      nofun
    rw [Option.map_eq_some_iff]
    constructor
    · rintro ⟨name, found, rfl⟩
      unfold readIdentifier? at found
      split at found
      next identifier =>
        cases found
        exact .inr ⟨_, rfl, String.toList_ofList, isWord_of_isIdentifier identifier, noLiteral⟩
      next => cases found
    · rintro (⟨i, _, literal⟩ | ⟨name, rfl, rfl, isWord, _⟩)
      · exact absurd literal (noLiteral i)
      · have identifier : isIdentifier name.toList = true := by
          simpa [isIdentifier, Text.IsWord] using isWord
        exact ⟨name, readIdentifier?_toList identifier, rfl⟩

/-- A text that is no literal of its base type is that error; durations have another one. -/
theorem read_of_read?_eq_none {baseType : BaseType} {text : String}
    (notDuration : baseType ≠ .duration) (none : read? baseType text = none) :
    read baseType text = .error (.invalidLiteral baseType text) := by
  cases baseType with
  | duration => exact absurd rfl notDuration
  | string | uri | file => cases none
  | boolean | integer | float | identifier | intOrIdentifier | point | pair | directedPair =>
      simp only [read?] at none
      simp only [read, none]

/-- A text is a scalar or an invalid literal. -/
theorem read_cases {baseType : BaseType} (notDuration : baseType ≠ .duration) (text : String) :
    (∃ scalar, read baseType text = .ok scalar) ∨
      read baseType text = .error (.invalidLiteral baseType text) := by
  cases found : read? baseType text with
  | none => exact .inr (read_of_read?_eq_none notDuration found)
  | some scalar => exact .inl ⟨scalar, read_eq_ok_iff.mpr found⟩

/-- A text is read as an integer if it is a numeral between blanks, maybe with a second plus
sign in front, and the number fits in 64 bits.  Points are two such literals with blanks
between them.  An `intOrIdentifier` literal is an integer for the same texts, and an identifier
for all other texts that are one word. -/
theorem read_integer_literals (text : String) :
    let trimmed := Text.trim text.toList
    (∀ scalar, read .integer text = .ok scalar ↔
      ∃ i : Int64, scalar = .integer i ∧
        (Numeral trimmed i.toInt ∨ TwiceSigned trimmed i.toInt)) ∧
    (∀ scalar, read .point text = .ok scalar ↔
      ∃ (x y : Int64) (first gap second : List Char), scalar = .point ⟨x, y⟩ ∧
        trimmed = first ++ gap ++ second ∧ gap ≠ [] ∧ (∀ c ∈ gap, Text.isBlank c = true) ∧
        (Numeral first x.toInt ∨ TwiceSigned first x.toInt) ∧
        (Numeral second y.toInt ∨ TwiceSigned second y.toInt)) ∧
    (∀ scalar, read .intOrIdentifier text = .ok scalar ↔
      (∃ i : Int64, scalar = .intOrIdentifier (.integer i) ∧
        (Numeral trimmed i.toInt ∨ TwiceSigned trimmed i.toInt)) ∨
      (∃ name, scalar = .intOrIdentifier (.identifier name) ∧ name.toList = trimmed ∧
        Text.IsWord trimmed ∧
        ∀ i : Int64, ¬(Numeral trimmed i.toInt ∨ TwiceSigned trimmed i.toInt))) ∧
    ∀ baseType ∈ [BaseType.integer, .point, .intOrIdentifier],
      (∃ scalar, read baseType text = .ok scalar) ∨
        read baseType text = .error (.invalidLiteral baseType text) := by
  intro trimmed
  refine ⟨fun scalar => ?_, fun scalar => ?_, fun scalar => ?_, ?_⟩
  · rw [read_eq_ok_iff, read?, Option.map_eq_some_iff]
    simp only [readInteger?_eq_some_iff]
    constructor
    · rintro ⟨i, literal, rfl⟩
      exact ⟨i, rfl, literal⟩
    · rintro ⟨i, rfl, literal⟩
      exact ⟨i, literal, rfl⟩
  · rw [read_eq_ok_iff, read?, Option.map_eq_some_iff]
    constructor
    · rintro ⟨⟨x, y⟩, found, rfl⟩
      obtain ⟨first, gap, second, parts⟩ := readPoint?_eq_some_iff.mp found
      exact ⟨x, y, first, gap, second, rfl, parts⟩
    · rintro ⟨x, y, first, gap, second, rfl, parts⟩
      exact ⟨⟨x, y⟩, readPoint?_eq_some_iff.mpr ⟨first, gap, second, parts⟩, rfl⟩
  · rw [read_eq_ok_iff, read?, Option.map_eq_some_iff]
    simp only [readIntOrIdentifier?_eq_some_iff]
    constructor
    · rintro ⟨value, ⟨i, rfl, literal⟩ | ⟨name, rfl, parts⟩, rfl⟩
      · exact .inl ⟨i, rfl, literal⟩
      · exact .inr ⟨name, rfl, parts⟩
    · rintro (⟨i, rfl, literal⟩ | ⟨name, rfl, parts⟩)
      · exact ⟨_, .inl ⟨i, rfl, literal⟩, rfl⟩
      · exact ⟨_, .inr ⟨name, rfl, parts⟩, rfl⟩
  · intro baseType member
    apply read_cases
    rintro rfl
    simp at member

/-- Two signs are read as one. -/
theorem read_integer_two_signs :
    read .integer "++5" = .ok (.integer 5) ∧ read .integer "+-5" = .ok (.integer (-5)) ∧
      (∀ n, ¬Numeral "++5".toList n) ∧ ∀ n, ¬Numeral "+-5".toList n := by
  have digit : Text.IsDigits ['5'] := ⟨by simp, by simp⟩
  have five : Numeral ['+', '5'] 5 := .plus digit
  have minusFive : Numeral ['-', '5'] (-5) := .minus digit
  refine ⟨by decide +kernel, by decide +kernel, fun n => ?_, fun n => ?_⟩
  · exact TwiceSigned.not_numeral (.mk (.inl rfl) five)
  · exact TwiceSigned.not_numeral (.mk (.inr rfl) minusFive)

end Scalar

end Assessment
