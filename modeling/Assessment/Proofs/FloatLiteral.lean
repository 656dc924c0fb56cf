import Assessment.Proofs.IntegerLiteral

/-!
# Literals of floats

Floats are written as decimal numerals, or by the names that XML Schema has for infinity and
NaN.  The reader of doubles also knows other names, in any case and with a sign.  Those
without a sign are refused before that reader is asked, but those with a sign are not.
-/

namespace Assessment

open Text (IsDigits)

namespace Decimal

variable {text sign mantissa digits : List Char}

/-! ## Numerals -/

/-- A sign or none. -/
def IsSign (text : List Char) : Prop :=
  text = [] ∨ text = ['+'] ∨ text = ['-']

/-- Digits with an optional point among or around them. -/
inductive Mantissa : List Char → Prop where
  | whole {digits : List Char} (isDigits : IsDigits digits) : Mantissa digits
  | pointed {whole places : List Char} (isDigits : IsDigits (whole ++ places)) :
      Mantissa (whole ++ '.' :: places)

inductive Exponent : List Char → Prop where
  | none : Exponent []
  | written {letter : Char} {sign digits : List Char} (isLetter : letter = 'e' ∨ letter = 'E')
      (isSign : IsSign sign) (isDigits : IsDigits digits) :
      Exponent (letter :: (sign ++ digits))

/-- Decimal numerals. -/
inductive Numeral : List Char → Prop where
  | mk {sign mantissa exponent : List Char} (isSign : IsSign sign)
      (isMantissa : Mantissa mantissa) (isExponent : Exponent exponent) :
      Numeral (sign ++ (mantissa ++ exponent))

theorem isDigit_eq (c : Char) : isDigit c = c.isDigit := by
  simp [isDigit, Char.isDigit, Char.le_def]

theorem isDigits_iff : IsDigits text ↔ text ≠ [] ∧ text.all isDigit = true := by
  simp [IsDigits, isDigit_eq]

theorem exists_sign (text : List Char) :
    ∃ sign, IsSign sign ∧ text = sign ++ (takeSign text).2 := by
  unfold takeSign
  split
  · exact ⟨['-'], .inr (.inr rfl), rfl⟩
  · exact ⟨['+'], .inr (.inl rfl), rfl⟩
  · exact ⟨[], .inl rfl, rfl⟩

/-- A sign ends where no sign follows it. -/
theorem takeSign_append (isSign : IsSign sign)
    (unsigned : ∀ c, text.head? = some c → c ≠ '+' ∧ c ≠ '-') :
    (takeSign (sign ++ text)).2 = text := by
  rcases isSign with rfl | rfl | rfl
  · rw [List.nil_append]
    unfold takeSign
    split
    next => exact absurd rfl (unsigned _ rfl).2
    next => exact absurd rfl (unsigned _ rfl).1
    next => rfl
  · rfl
  · rfl

theorem not_sign_of_isDigit {c : Char} (isDigit : c.isDigit = true) : c ≠ '+' ∧ c ≠ '-' := by
  constructor
  · rintro rfl
    exact absurd isDigit (by decide)
  · rintro rfl
    exact absurd isDigit (by decide)

theorem unsigned_of_mantissa (isMantissa : Mantissa mantissa) (text : List Char) :
    ∀ c, (mantissa ++ text).head? = some c → c ≠ '+' ∧ c ≠ '-' := by
  cases isMantissa with
  | whole isDigits =>
      obtain ⟨d, rest, rfl⟩ := List.exists_cons_of_ne_nil isDigits.1
      rintro _ ⟨⟩
      exact not_sign_of_isDigit (isDigits.2 d List.mem_cons_self)
  | @pointed whole places isDigits =>
      cases whole with
      | nil =>
          rintro _ ⟨⟩
          decide
      | cons d rest =>
          rintro _ ⟨⟩
          exact not_sign_of_isDigit (isDigits.2 d List.mem_cons_self)

theorem isSome_readExponent?_iff : (readExponent? text).isSome ↔ Exponent text := by
  constructor
  · intro success
    unfold readExponent? at success
    split at success
    next => exact .none
    next letter rest =>
      split at success
      next isLetter =>
        obtain ⟨sign, isSign, whole⟩ := exists_sign rest
        dsimp only at success
        split at success
        next => cases success
        next isDigits =>
          rw [whole]
          exact .written (by simpa using isLetter) isSign
            (isDigits_iff.mpr (by simpa using isDigits))
      next => cases success
  · intro exponent
    cases exponent with
    | none => rfl
    | @written letter sign digits isLetter isSign isDigits =>
        have unsigned := unsigned_of_mantissa (.whole isDigits) []
        rw [List.append_nil] at unsigned
        have rest := takeSign_append isSign unsigned
        have digits := isDigits_iff.mp isDigits
        have letter : (letter == 'e' || letter == 'E') = true := by simpa using isLetter
        simp [readExponent?, letter, rest, digits]

/-- A run of digits ends where no digit follows it. -/
theorem takeWhile_append (allDigits : ∀ c ∈ digits, isDigit c = true)
    (ended : ∀ c, text.head? = some c → isDigit c = false) :
    (digits ++ text).takeWhile isDigit = digits ∧ (digits ++ text).dropWhile isDigit = text := by
  rw [List.takeWhile_append_of_pos allDigits, List.dropWhile_append_of_pos allDigits]
  cases text with
  | nil => simp
  | cons c rest => simp [ended c rfl]

theorem not_digit_of_exponent (exponent : Exponent text) :
    ∀ c, text.head? = some c → isDigit c = false ∧ c ≠ '.' := by
  cases exponent with
  | none => nofun
  | written isLetter =>
      rintro _ ⟨⟩
      rcases isLetter with rfl | rfl <;> decide

theorem isDigits_of_takeWhile (nonempty : text.takeWhile isDigit ≠ []) :
    IsDigits (text.takeWhile isDigit) :=
  isDigits_iff.mpr ⟨nonempty, List.all_takeWhile⟩

theorem isSome_read?_iff : (read? text).isSome ↔ Numeral text := by
  constructor
  · intro success
    obtain ⟨sign, isSign, signed⟩ := exists_sign text
    simp only [read?] at success
    generalize (takeSign text).2 = body at signed success
    rw [signed]
    have parts : body.takeWhile isDigit ++ body.dropWhile isDigit = body :=
      List.takeWhile_append_dropWhile
    split at success
    next rest point =>
      split at success
      next => cases success
      next nonempty =>
        rw [Option.isSome_map, isSome_readExponent?_iff] at success
        have placesParts : rest.takeWhile isDigit ++ rest.dropWhile isDigit = rest :=
          List.takeWhile_append_dropWhile
        have isDigits : IsDigits (body.takeWhile isDigit ++ rest.takeWhile isDigit) := by
          refine isDigits_iff.mpr ⟨by simpa using nonempty, ?_⟩
          rw [List.all_append, List.all_takeWhile, List.all_takeWhile, Bool.and_self]
        rw [← parts, point, ← placesParts]
        have written := Numeral.mk isSign (.pointed isDigits) success
        rwa [List.append_assoc, List.cons_append] at written
    next rest noPoint =>
      split at success
      next => cases success
      next nonempty =>
        rw [Option.isSome_map, isSome_readExponent?_iff] at success
        have isDigits := isDigits_of_takeWhile (by simpa using nonempty)
        rw [← parts]
        exact .mk isSign (.whole isDigits) success
  · intro numeral
    obtain @⟨sign, mantissa, exponent, isSign, isMantissa, isExponent⟩ := numeral
    have readable := isSome_readExponent?_iff.mpr isExponent
    have ended := not_digit_of_exponent isExponent
    have body := takeSign_append isSign (unsigned_of_mantissa isMantissa exponent)
    cases isMantissa with
    | whole isDigits =>
        obtain ⟨nonempty, allDigits⟩ := isDigits_iff.mp isDigits
        obtain ⟨taken, dropped⟩ := takeWhile_append (List.all_eq_true.mp allDigits)
          fun c head => (ended c head).1
        simp only [read?, body, taken, dropped]
        split
        next rest => exact absurd rfl (ended _ rfl).2
        next => simp [nonempty, readable]
    | @pointed whole places isDigits =>
        obtain ⟨nonempty, allDigits⟩ := isDigits_iff.mp isDigits
        rw [List.all_append, Bool.and_eq_true] at allDigits
        have point : ∀ c, ('.' :: (places ++ exponent)).head? = some c → isDigit c = false := by
          rintro _ ⟨⟩
          decide
        obtain ⟨taken, dropped⟩ := takeWhile_append (List.all_eq_true.mp allDigits.1) point
        obtain ⟨placesTaken, placesDropped⟩ :=
          takeWhile_append (List.all_eq_true.mp allDigits.2) fun c head => (ended c head).1
        rw [List.append_assoc, List.cons_append] at body
        have written : ¬(whole = [] ∧ places = []) := by simpa using nonempty
        simp [read?, body, taken, dropped, placesTaken, placesDropped, written, readable]

theorem Numeral.exists_digit (numeral : Numeral text) : ∃ c ∈ text, c.isDigit = true := by
  obtain ⟨isSign, isMantissa, isExponent⟩ := numeral
  cases isMantissa with
  | whole isDigits =>
      obtain ⟨c, member⟩ := List.exists_mem_of_ne_nil _ isDigits.1
      exact ⟨c, by simp [member], isDigits.2 c member⟩
  | pointed isDigits =>
      obtain ⟨c, member⟩ := List.exists_mem_of_ne_nil _ isDigits.1
      refine ⟨c, ?_, isDigits.2 c member⟩
      rcases List.mem_append.mp member with before | behind
      · simp [before]
      · simp [behind]

end Decimal

namespace Real64

open Decimal (Numeral)

variable {text : List Char} {x : Float}

/-! ## Names -/

/-- The names of XML Schema, and what they stand for. -/
inductive SchemaName : List Char → Float → Prop where
  | infinity : SchemaName "INF".toList infinity
  | plusInfinity : SchemaName "+INF".toList infinity
  | minusInfinity : SchemaName "-INF".toList (-infinity)
  | nan : SchemaName "NaN".toList nan

/-- The names that the reader of doubles knows, in any case. -/
inductive AnyName : List Char → Float → Prop where
  | infinity {text : List Char} (spelled : text.map Char.toLower = "infinity".toList) :
      AnyName text infinity
  | inf {text : List Char} (spelled : text.map Char.toLower = "inf".toList) :
      AnyName text infinity
  | nan {text : List Char} (spelled : text.map Char.toLower = "nan".toList) : AnyName text nan

/-- Such a name behind a sign. -/
inductive SignedName : List Char → Float → Prop where
  | plus {name : List Char} {x : Float} (isName : AnyName name x) : SignedName ('+' :: name) x
  | minus {name : List Char} {x : Float} (isName : AnyName name x) :
      SignedName ('-' :: name) (-x)

theorem special?_eq_some_iff : special? (lowerAscii text) = some x ↔ AnyName text x := by
  have spelled (name : String) :
      lowerAscii text == name ↔ text.map Char.toLower = name.toList := by
    rw [beq_iff_eq, lowerAscii, ← String.toList_inj, String.toList_ofList]
  unfold special?
  constructor
  · intro success
    split at success
    next either =>
      cases success
      rcases Bool.or_eq_true_iff.mp either with short | long
      · exact .inf ((spelled _).mp short)
      · exact .infinity ((spelled _).mp long)
    next =>
      split at success
      next isNan =>
        cases success
        exact .nan ((spelled _).mp isNan)
      next => cases success
  · intro isName
    cases isName with
    | infinity long => simp [(spelled _).mpr long]
    | inf short => simp [(spelled _).mpr short]
    | nan isNan => 
        have lower : lowerAscii text = "nan" := by simpa using (spelled _).mpr isNan
        simp [lower]

/-- Names consist of letters, so that they have neither digits nor signs. -/
theorem AnyName.le_toNat (isName : AnyName text x) {c : Char} (member : c ∈ text) :
    65 ≤ c.toNat := by
  have letters : ∀ letter ∈ text.map Char.toLower, 65 ≤ letter.toNat := by
    cases isName with
    | infinity spelled | inf spelled | nan spelled =>
        simp [spelled]
  by_contra small
  have noCapital : ¬(c.val ≥ 'A'.val ∧ c.val ≤ 'Z'.val) := fun capital =>
    small (UInt32.le_iff_toNat_le.mp capital.1)
  have kept : c.toLower = c := dif_neg noCapital
  have large := letters _ (List.mem_map_of_mem member)
  rw [kept] at large
  exact small large

theorem AnyName.not_signed {y : Float} (isName : AnyName text x) : ¬SignedName text y := by
  rintro (_ | _)
  · exact absurd (isName.le_toNat List.mem_cons_self) (by decide)
  · exact absurd (isName.le_toNat List.mem_cons_self) (by decide)

theorem AnyName.not_numeral (isName : AnyName text x) : ¬Numeral text := by
  intro numeral
  obtain ⟨c, member, isDigit⟩ := numeral.exists_digit
  have small : c.toNat ≤ 57 := by
    simp only [Char.isDigit, ge_iff_le, Bool.and_eq_true, decide_eq_true_eq,
      UInt32.le_iff_toNat_le] at isDigit
    exact isDigit.2
  have large := isName.le_toNat member
  omega

theorem AnyName.unique {y : Float} (isName : AnyName text x) (other : AnyName text y) : x = y :=
  Option.some.inj ((special?_eq_some_iff.mpr isName).symm.trans (special?_eq_some_iff.mpr other))

end Real64

namespace Scalar

open Real64 (SchemaName AnyName SignedName)
open Decimal (Numeral)

variable {text : List Char} {x : Float}

theorem readFloat?_of_schemaName (isName : SchemaName text x) : readFloat? text = some x := by
  cases isName <;> rfl

theorem readFloat?_of_not_schemaName (other : ∀ x, ¬SchemaName text x) :
    readFloat? text =
      if (Real64.special? (Real64.lowerAscii text)).isSome then none else Real64.read? text := by
  have differs {name : List Char} {y : Float} (isName : SchemaName name y) :
      (text == name) = false :=
    beq_eq_false_iff_ne.mpr fun same => other y (same ▸ isName)
  have infinity : (text == ['I', 'N', 'F']) = false := differs .infinity
  have plusInfinity : (text == ['+', 'I', 'N', 'F']) = false := differs .plusInfinity
  have minusInfinity : (text == ['-', 'I', 'N', 'F']) = false := differs .minusInfinity
  have nan : (text == ['N', 'a', 'N']) = false := differs .nan
  simp only [readFloat?, infinity, plusInfinity, minusInfinity, nan, Bool.or_self,
    Bool.false_eq_true, if_false]

theorem special?_eq_none (unknown : ∀ x, ¬AnyName text x) :
    Real64.special? (Real64.lowerAscii text) = none :=
  Option.eq_none_iff_forall_ne_some.mpr fun x found =>
    unknown x (Real64.special?_eq_some_iff.mp found)

theorem read?_of_signedName (signed : SignedName text x) : Real64.read? text = some x := by
  cases signed with
  | plus isName | minus isName =>
      have found := Real64.special?_eq_some_iff.mpr isName
      simp [Real64.read?, Decimal.takeSign, found]

theorem readFloat?_of_signedName (signed : SignedName text x) : readFloat? text = some x := by
  by_cases schema : ∃ y, SchemaName text y
  · obtain ⟨y, isName⟩ := schema
    rw [readFloat?_of_schemaName isName]
    have inf : AnyName "INF".toList Real64.infinity := .inf (by simp)
    cases isName with
    | infinity => exact absurd signed inf.not_signed
    | plusInfinity =>
        cases signed with
        | plus other => rw [inf.unique other]
    | minusInfinity =>
        cases signed with
        | minus other => rw [inf.unique other]
    | nan => exact absurd signed (AnyName.nan (by simp)).not_signed
  · rw [readFloat?_of_not_schemaName (not_exists.mp schema),
      special?_eq_none fun y isName => isName.not_signed signed]
    exact read?_of_signedName signed

/-- The reader of doubles takes numerals, and names behind a sign. -/
theorem isSome_read?_iff (unknown : ∀ x, ¬AnyName text x) :
    (Real64.read? text).isSome ↔ (∃ x, SignedName text x) ∨ Numeral text := by
  constructor
  · intro success
    obtain ⟨sign, isSign, signed⟩ := Decimal.exists_sign text
    simp only [Real64.read?] at success
    generalize (Decimal.takeSign text).2 = body at signed success
    split at success
    next x found =>
      have isName := Real64.special?_eq_some_iff.mp found
      rcases isSign with rfl | rfl | rfl
      · exact absurd (signed ▸ isName) (unknown x)
      · exact .inl ⟨x, signed ▸ .plus isName⟩
      · exact .inl ⟨-x, signed ▸ .minus isName⟩
    next =>
      rw [Option.isSome_map, Decimal.isSome_read?_iff] at success
      exact .inr success
  · rintro (⟨x, signed⟩ | numeral)
    · rw [read?_of_signedName signed]
      rfl
    · simp only [Real64.read?]
      split
      next => rfl
      next =>
        rw [Option.isSome_map]
        exact Decimal.isSome_read?_iff.mpr numeral

theorem isSome_readFloat?_iff :
    (readFloat? text).isSome ↔
      (∃ x, SchemaName text x) ∨ (∃ x, SignedName text x) ∨ Numeral text := by
  by_cases schema : ∃ x, SchemaName text x
  · obtain ⟨x, isName⟩ := schema
    rw [readFloat?_of_schemaName isName]
    exact iff_of_true rfl (.inl ⟨x, isName⟩)
  · rw [readFloat?_of_not_schemaName (not_exists.mp schema), or_iff_right schema]
    by_cases known : ∃ x, AnyName text x
    · obtain ⟨x, isName⟩ := known
      rw [Real64.special?_eq_some_iff.mpr isName]
      refine iff_of_false (by simp) ?_
      rintro (⟨y, signed⟩ | numeral)
      · exact isName.not_signed signed
      · exact isName.not_numeral numeral
    · rw [special?_eq_none (not_exists.mp known)]
      exact isSome_read?_iff (not_exists.mp known)

/-- A text is read as a float if it is, between blanks, a name of XML Schema, a numeral, or one
of the names `inf`, `infinity` and `nan` in any case behind a sign.  Names without a sign in
any other spelling than that of XML Schema are refused. -/
theorem read_float_literals (text : String) :
    let trimmed := Text.trim text.toList
    ((∃ x, read .float text = .ok (.float x)) ↔
      (∃ x, SchemaName trimmed x) ∨ (∃ x, SignedName trimmed x) ∨ Numeral trimmed) ∧
    (∀ x, SchemaName trimmed x ∨ SignedName trimmed x → read .float text = .ok (.float x)) ∧
    (∀ x, AnyName trimmed x → (∀ y, ¬SchemaName trimmed y) →
      read .float text = .error (.invalidLiteral .float text)) ∧
    ((∃ x, read .float text = .ok (.float x)) ∨
      read .float text = .error (.invalidLiteral .float text)) := by
  intro trimmed
  have accepts (x : Float) :
      read .float text = .ok (.float x) ↔ readFloat? trimmed = some x := by
    rw [read_eq_ok_iff, read?, Option.map_eq_some_iff]
    simp [trimmed]
  have accepted : (∃ x, read .float text = .ok (.float x)) ↔
      (∃ x, SchemaName trimmed x) ∨ (∃ x, SignedName trimmed x) ∨ Numeral trimmed := by
    simp only [accepts, ← Option.isSome_iff_exists]
    exact isSome_readFloat?_iff
  have decided : (∃ x, read .float text = .ok (.float x)) ∨
      read .float text = .error (.invalidLiteral .float text) := by
    refine (read_cases (by decide) text).imp ?_ id
    rintro ⟨scalar, success⟩
    obtain ⟨x, _, rfl⟩ := Option.map_eq_some_iff.mp (read_eq_ok_iff.mp success)
    exact ⟨x, success⟩
  refine ⟨accepted, fun x named => ?_, fun x isName other => ?_, decided⟩
  · rw [accepts]
    rcases named with isName | signed
    · exact readFloat?_of_schemaName isName
    · exact readFloat?_of_signedName signed
  · refine decided.resolve_left fun success => ?_
    rcases accepted.mp success with ⟨y, schema⟩ | ⟨y, signed⟩ | numeral
    · exact other y schema
    · exact isName.not_signed signed
    · exact isName.not_numeral numeral

/-- Signed names that are not those of XML Schema are read, and are not finite. -/
theorem read_float_signed_names :
    read .float "+inf" = .ok (.float Real64.infinity) ∧
      read .float "-Infinity" = .ok (.float (-Real64.infinity)) ∧
      read .float "+nan" = .ok (.float Real64.nan) ∧
      (∀ x, ¬SchemaName "+inf".toList x) ∧ ¬Numeral "+inf".toList ∧
      read .float "inf" = .error (.invalidLiteral .float "inf") := by
  refine ⟨by decide +kernel, by decide +kernel, by decide +kernel, ?_, ?_, by decide +kernel⟩
  · intro x isName
    generalize written : "+inf".toList = text at isName
    cases isName <;> simp at written
  · intro numeral
    obtain ⟨c, member, isDigit⟩ := numeral.exists_digit
    have letters : ∀ c ∈ "+inf".toList, c.isDigit = false := by simp
    rw [letters c member] at isDigit
    cases isDigit

end Scalar

end Assessment
