import Assessment.Pattern.Escape

/-!
# Reading up to a closing parenthesis

The readers of pattern notation take a text and give back the rest of it.  Here a text is
read by itself, and once more with a closing parenthesis and anything else behind it.
`Settles` names the three ways in which the two results can be related: the reader stops
within the text both times, it fails on the text alone and otherwise runs over the
parenthesis, or it ends within a comment, which goes on up to the end of a line.

`Delimited` readers are in one of these ways with every text.  They are closed under the
combinations that the readers are made of.  Escapes are delimited but for one: the brace
behind `\b` belongs to the escape or to a repetition, which the character behind it decides.
-/

namespace Assessment.PatternText

variable {α β : Type} {verbose : Bool} {text : List Char}

theorem suffix_behind {c : Char} {rest : List Char} (suffix : rest <:+ text) : rest <:+ c :: text :=
  suffix.trans (List.suffix_cons c text)

/-- How what is read from a text by itself is related to what is read from it with a closing
parenthesis and further characters behind it. -/
inductive Settles (alone : Option (α × List Char))
    (within : List Char → Option (α × List Char)) : Prop where
  /-- The reader stops within the text. -/
  | stops (found : α) (rest : List Char) :
      alone = some (found, rest) →
      (∀ behind, within behind = some (found, rest ++ ')' :: behind)) →
      Settles alone within
  /-- The text alone is not enough, and the reader goes beyond the parenthesis or fails. -/
  | overruns :
      alone = none →
      (∀ behind found rest, within behind = some (found, rest) →
        rest <:+ behind) →
      Settles alone within
  /-- The text ends within a comment, to which the rest of the line belongs. -/
  | ignores :
      (∀ behind, '\n' ∉ behind → within behind = alone) →
      (∀ behind found rest, within behind = some (found, rest) →
        rest <:+ behind) →
      Settles alone within

namespace Settles

variable {alone : Option (α × List Char)} {within : List Char → Option (α × List Char)}

/-- A reader that can only fail. -/
theorem fails : Settles (none : Option (α × List Char)) fun _ => none :=
  .overruns rfl nofun

theorem gives (found : α) (rest : List Char) :
    Settles (some (found, rest)) fun behind => some (found, rest ++ ')' :: behind) :=
  .stops found rest rfl fun _ => rfl

theorem map (settles : Settles alone within) (f : α → β) :
    Settles (alone.map (Prod.map f id)) fun behind => (within behind).map (Prod.map f id) := by
  have shortens (short : ∀ behind found rest, within behind = some (found, rest) →
      rest <:+ behind) (behind : List Char) (found : β) (rest : List Char)
      (result : (within behind).map (Prod.map f id) = some (found, rest)) :
      rest <:+ behind := by
    obtain ⟨⟨first, next⟩, success, equal⟩ := Option.map_eq_some_iff.mp result
    cases equal
    exact short behind first _ success
  cases settles with
  | stops found rest isAlone isWithin =>
      exact .stops (f found) rest (by simp [isAlone]) fun behind => by simp [isWithin]
  | overruns isAlone short => exact .overruns (by simp [isAlone]) (shortens short)
  | ignores same short =>
      exact .ignores (fun behind oneLine => by rw [same behind oneLine]) (shortens short)

/-- A reader goes on behind another one. -/
theorem bind {next : α × List Char → Option (β × List Char)}
    {nextWithin : List Char → α × List Char → Option (β × List Char)}
    (settles : Settles alone within)
    (goesOn : ∀ found rest, alone = some (found, rest) →
      Settles (next (found, rest)) fun behind => nextWithin behind (found, rest ++ ')' :: behind))
    (atEnd : ∀ behind found, nextWithin behind (found, []) = next (found, []))
    (shrinks : ∀ behind found text result rest,
      nextWithin behind (found, text) = some (result, rest) → rest <:+ text) :
    Settles (alone.bind next) fun behind => (within behind).bind (nextWithin behind) := by
  have shortens (short : ∀ behind found rest, within behind = some (found, rest) →
      rest <:+ behind) (behind : List Char) (found : β) (rest : List Char)
      (result : (within behind).bind (nextWithin behind) = some (found, rest)) :
      rest <:+ behind := by
    obtain ⟨⟨first, middle⟩, success, second⟩ := Option.bind_eq_some_iff.mp result
    exact List.IsSuffix.trans (shrinks _ _ _ _ _ second) (short behind first middle success)
  cases settles with
  | stops found rest isAlone isWithin =>
      simpa only [isAlone, isWithin, Option.bind_some] using goesOn found rest isAlone
  | overruns isAlone short => exact .overruns (by rw [isAlone]; rfl) (shortens short)
  | ignores same short =>
      refine .ignores (fun behind oneLine => ?_) (shortens short)
      rw [same behind oneLine]
      cases isAlone : alone with
      | none => rfl
      | some result =>
          obtain ⟨found, rest⟩ := result
          have ended := short [] found rest (by rw [same [] (by simp), isAlone])
          obtain rfl := List.suffix_nil.mp ended
          exact atEnd behind found

end Settles

/-- A reader whose results on a text settle those with a closing parenthesis behind it. -/
structure Delimited (read : List Char → Option (α × List Char)) : Prop where
  shrinks : ∀ {text found rest}, read text = some (found, rest) → rest <:+ text
  settles : ∀ text, Settles (read text) fun behind => read (text ++ ')' :: behind)

namespace Delimited

variable {read : List Char → Option (α × List Char)}

theorem fails : Delimited fun _ => (none : Option (α × List Char)) :=
  ⟨nofun, fun _ => .fails⟩

theorem gives (found : α) : Delimited fun text => some (found, text) where
  shrinks := by
    rintro text _ rest ⟨⟩
    exact List.suffix_refl _
  settles := .gives found

/-- Nothing is read, and what was read before has a meaning or not. -/
theorem means (meaning : Option β) (f : β → α) :
    Delimited fun text => meaning.bind fun found => some (f found, text) := by
  cases meaning with
  | none => exact fails
  | some found => exact gives (f found)

theorem map (delimited : Delimited read) (f : α → β) :
    Delimited fun text => (read text).map (Prod.map f id) where
  shrinks := by
    intro text found rest result
    obtain ⟨⟨first, next⟩, success, equal⟩ := Option.map_eq_some_iff.mp result
    cases equal
    exact delimited.shrinks success
  settles text := (delimited.settles text).map f

theorem bind {next : α × List Char → Option (β × List Char)} (delimited : Delimited read)
    (goesOn : ∀ found, Delimited fun rest => next (found, rest)) :
    Delimited fun text => (read text).bind next where
  shrinks := by
    intro text found rest result
    obtain ⟨⟨first, middle⟩, success, second⟩ := Option.bind_eq_some_iff.mp result
    exact List.IsSuffix.trans ((goesOn first).shrinks second) (delimited.shrinks success)
  settles text :=
    (delimited.settles text).bind (fun found rest _ => (goesOn found).settles rest)
      (fun _ _ => rfl) fun _ found _ _ _ => (goesOn found).shrinks

/-- What was found before decides how the reader goes on. -/
theorem ite {condition : Prop} {decision : Decidable condition}
    {other : List Char → Option (α × List Char)} (yes : Delimited read) (no : Delimited other) :
    Delimited fun text => if condition then read text else other text := by
  by_cases holds : condition
  · simpa only [holds, if_true] using yes
  · simpa only [holds, if_false] using no

/-- A reader that needs a character and goes on behind it. -/
theorem cons (nil : read [] = none) (behind : ∀ c, Delimited fun rest => read (c :: rest)) :
    Delimited read where
  shrinks := by
    intro text found rest result
    cases text with
    | nil => simp [nil] at result
    | cons c text => exact suffix_behind ((behind c).shrinks result)
  settles text := by
    cases text with
    | nil => exact .overruns nil fun _ _ _ => (behind ')').shrinks
    | cons c rest => exact (behind c).settles rest

/-- A reader to which some characters at the start of the text make a difference. -/
theorem ofHeads {other : List Char → Option (α × List Char)} (otherwise : Delimited other)
    (nil : read [] = other []) (closing : ∀ rest, read (')' :: rest) = other (')' :: rest))
    (behind : ∀ c, (Delimited fun rest => read (c :: rest)) ∨
      ∀ rest, read (c :: rest) = other (c :: rest)) :
    Delimited read where
  shrinks := by
    intro text found rest success
    cases text with
    | nil => exact otherwise.shrinks (nil ▸ success)
    | cons c text =>
        rcases behind c with delimited | equal
        · exact suffix_behind (delimited.shrinks success)
        · exact otherwise.shrinks (equal text ▸ success)
  settles text := by
    cases text with
    | nil => simpa only [nil, List.nil_append, closing] using otherwise.settles []
    | cons c rest =>
        rcases behind c with delimited | equal
        · exact delimited.settles rest
        · simpa only [equal, List.cons_append] using otherwise.settles (c :: rest)

/-- A reader to which one character at the start of the text makes a difference. -/
theorem ofHead {c : Char} {other : List Char → Option (α × List Char)} (noClosing : c ≠ ')')
    (behind : Delimited fun rest => read (c :: rest)) (otherwise : Delimited other)
    (equal : ∀ text, text.head? ≠ some c → read text = other text) : Delimited read := by
  refine .ofHeads otherwise (equal [] nofun) (fun rest => equal _ ?_) fun d => ?_
  · simpa using Ne.symm noClosing
  · by_cases same : d = c
    · exact .inl (same ▸ behind)
    · exact .inr fun rest => equal _ (by simpa using same)

end Delimited

/-! ## Fillers -/

@[simp] theorem skipFiller_nil (comment : Bool) : skipFiller comment [] = [] := by
  cases comment <;> rfl

theorem skipFiller_cons {c : Char} (letter : Text.isBlank c = false) (noComment : c ≠ '#')
    (rest : List Char) : skipFiller false (c :: rest) = c :: rest := by
  simp [skipFiller, letter, noComment]

theorem skipFiller_suffix (comment : Bool) (text : List Char) :
    skipFiller comment text <:+ text := by
  induction text generalizing comment with
  | nil => simp
  | cons c rest induction =>
      cases comment with
      | true => exact suffix_behind (induction _)
      | false =>
          simp only [skipFiller]
          split
          · exact suffix_behind (induction _)
          · split
            · exact suffix_behind (induction _)
            · exact List.suffix_refl _

theorem skipFiller_skipFiller (comment : Bool) (text : List Char) :
    skipFiller false (skipFiller comment text) = skipFiller comment text := by
  induction text generalizing comment with
  | nil => simp
  | cons c rest induction =>
      cases comment with
      | true => exact induction _
      | false =>
          simp only [skipFiller]
          split
          · exact induction _
          · split
            · exact induction _
            · simp [skipFiller, *]

/-- A comment goes on up to the end of the line. -/
theorem skipFiller_comment {line : List Char} (oneLine : '\n' ∉ line) :
    skipFiller true line = [] := by
  induction line with
  | nil => rfl
  | cons c rest induction =>
      simp only [List.mem_cons, not_or] at oneLine
      simp [skipFiller, bne_iff_ne.mpr (Ne.symm oneLine.1), induction oneLine.2]

theorem settles_skipFiller (comment : Bool) (text : List Char) :
    Settles (some ((), skipFiller comment text)) fun behind =>
      some ((), skipFiller comment (text ++ ')' :: behind)) := by
  induction text generalizing comment with
  | nil =>
      cases comment with
      | true =>
          -- the parenthesis belongs to the comment
          refine .ignores (fun behind oneLine => ?_) ?_
          · simp [skipFiller, skipFiller_comment oneLine]
          · rintro behind _ rest ⟨⟩
            exact skipFiller_suffix true behind
      | false =>
          refine .stops () [] (by simp) fun behind => ?_
          simp [skipFiller_cons (c := ')') (by decide) (by decide)]
  | cons c rest induction =>
      cases comment with
      | true => exact induction _
      | false =>
          simp only [List.cons_append, skipFiller]
          split
          · exact induction _
          · split
            · exact induction _
            · exact .gives () (c :: rest)

@[simp] theorem skip_nil (verbose : Bool) : skip verbose [] = [] := by
  cases verbose <;> rfl

theorem skip_of_letter {c : Char} (letter : Text.isBlank c = false) (noComment : c ≠ '#')
    (rest : List Char) : skip verbose (c :: rest) = c :: rest := by
  cases verbose
  · rfl
  · exact skipFiller_cons letter noComment rest

@[simp] theorem skip_closing (verbose : Bool) (behind : List Char) :
    skip verbose (')' :: behind) = ')' :: behind :=
  skip_of_letter (by decide) (by decide) behind

@[simp] theorem skip_brace (verbose : Bool) (rest : List Char) :
    skip verbose ('\x7d' :: rest) = '\x7d' :: rest :=
  skip_of_letter (by decide) (by decide) rest

@[simp] theorem skip_skip (verbose : Bool) (text : List Char) :
    skip verbose (skip verbose text) = skip verbose text := by
  cases verbose
  · rfl
  · exact skipFiller_skipFiller false text

theorem skip_suffix (verbose : Bool) (text : List Char) :
    skip verbose text <:+ text := by
  cases verbose
  · exact List.suffix_refl _
  · exact skipFiller_suffix false text

theorem settles_skip (verbose : Bool) (text : List Char) :
    Settles (some ((), skip verbose text)) fun behind =>
      some ((), skip verbose (text ++ ')' :: behind)) := by
  cases verbose
  · exact .gives () text
  · exact settles_skipFiller false text

/-- Whether a character begins a filler does not depend on what is behind it. -/
theorem skip_cons {c : Char} {rest : List Char} (bare : skip verbose (c :: rest) = c :: rest)
    (other : List Char) : skip verbose (c :: other) = c :: other := by
  cases verbose with
  | false => rfl
  | true =>
      simp only [skip, if_true, skipFiller] at bare ⊢
      have shorter (comment : Bool) : skipFiller comment rest ≠ c :: rest := fun equal => by
        have shorter := (skipFiller_suffix comment rest).length_le
        rw [equal] at shorter
        exact Nat.not_succ_le_self _ shorter
      split at bare
      · exact absurd bare (shorter false)
      · split at bare
        · exact absurd bare (shorter true)
        · simp [*]

/-- Fillers with something behind them end where they end in any longer text. -/
theorem skip_append (solid : skip verbose text ≠ []) (other : List Char) :
    skip verbose (text ++ other) = skip verbose text ++ other := by
  cases verbose with
  | false => rfl
  | true =>
      simp only [skip, if_true] at solid ⊢
      generalize false = comment at solid ⊢
      induction text generalizing comment with
      | nil => simp at solid
      | cons c rest induction =>
          cases comment with
          | true => exact induction _ solid
          | false =>
              simp only [List.cons_append, skipFiller] at solid ⊢
              split at solid
              next blank => simpa [blank] using induction _ solid
              next letter =>
                split at solid
                next comment => simpa [letter, comment] using induction _ solid
                next bare => simp [letter, bare]

/-- A reader goes on behind fillers. -/
theorem Settles.afterSkip {read : List Char → Option (α × List Char)}
    {readWithin : List Char → List Char → Option (α × List Char)}
    (settles : ∀ rest, skip verbose text = rest →
      Settles (read rest) fun behind => readWithin behind (rest ++ ')' :: behind))
    (atEnd : ∀ behind, readWithin behind [] = read [])
    (shrinks : ∀ behind text found rest,
      readWithin behind text = some (found, rest) → rest <:+ text) :
    Settles (read (skip verbose text)) fun behind =>
      readWithin behind (skip verbose (text ++ ')' :: behind)) := by
  change Settles ((some ((), skip verbose text)).bind fun result => read result.2) fun behind =>
    (some ((), skip verbose (text ++ ')' :: behind))).bind fun result =>
      readWithin behind result.2
  refine (settles_skip verbose text).bind (fun _ rest found => ?_) (fun behind _ => atEnd behind)
    (fun behind _ => shrinks behind)
  cases found
  exact settles _ rfl

/-- A reader that skips fillers before it reads may start behind them. -/
theorem Settles.ofSkip {read : List Char → Option (α × List Char)}
    {readWithin : List Char → List Char → Option (α × List Char)}
    (skips : ∀ text, read (skip verbose text) = read text)
    (skipsWithin : ∀ behind text, readWithin behind (skip verbose text) = readWithin behind text)
    (settles : ∀ rest, skip verbose rest = rest → rest <:+ text →
      Settles (read rest) fun behind => readWithin behind (rest ++ ')' :: behind))
    (atEnd : ∀ behind, readWithin behind [] = read [])
    (shrinks : ∀ behind text found rest,
      readWithin behind text = some (found, rest) → rest <:+ text) :
    Settles (read text) fun behind => readWithin behind (text ++ ')' :: behind) := by
  rw [← skips, funext fun behind => (skipsWithin behind (text ++ ')' :: behind)).symm]
  refine .afterSkip (fun rest isRest => settles rest ?_ ?_) atEnd shrinks
  · rw [← isRest, skip_skip]
  · exact isRest ▸ skip_suffix verbose text

theorem Delimited.afterSkip {read : List Char → Option (α × List Char)}
    (delimited : Delimited read) : Delimited fun text => read (skip verbose text) where
  shrinks := fun success => List.IsSuffix.trans (delimited.shrinks success) (skip_suffix _ _)
  settles _ :=
    .afterSkip (fun rest _ => delimited.settles rest) (fun _ => rfl) fun _ _ _ _ =>
      delimited.shrinks

/-- A reader that skips fillers before it reads. -/
theorem Delimited.ofSkip (verbose : Bool) {read : List Char → Option (α × List Char)}
    (skips : ∀ text, read (skip verbose text) = read text) (nil : read [] = none)
    (cons : ∀ c, (∀ rest, skip verbose (c :: rest) = c :: rest) →
      Delimited fun rest => read (c :: rest)) :
    Delimited read := by
  have shrinks {text found rest} (success : read text = some (found, rest)) :
      rest <:+ text := by
    rw [← skips] at success
    refine List.IsSuffix.trans ?_ (skip_suffix verbose text)
    have bare := skip_skip verbose text
    generalize skip verbose text = text at success bare
    cases text with
    | nil => simp [nil] at success
    | cons c text => exact suffix_behind ((cons c (skip_cons bare)).shrinks success)
  refine ⟨shrinks, fun text => .ofSkip skips (fun _ => skips) (fun rest bare _ => ?_)
    (fun _ => rfl) fun _ _ _ _ => shrinks⟩
  cases rest with
  | nil =>
      refine .overruns nil fun behind _ _ => ?_
      exact (cons ')' fun rest => skip_closing verbose rest).shrinks
  | cons c rest => exact (cons c (skip_cons bare)).settles rest

/-! ## Scans -/

/-- The characters at the start of a text that are accepted, with fillers behind each, and the
rest of the text. -/
def scan (verbose : Bool) (accepts : Char → Bool) : List Char → List Char × List Char
  | [] => ([], [])
  | c :: rest =>
      if accepts c then
        let (found, rest) := scan verbose accepts (skip verbose rest)
        (c :: found, rest)
      else ([], c :: rest)
termination_by text => text.length
decreasing_by exact Nat.lt_succ_of_le (skip_suffix verbose rest).length_le

theorem scan_cons (accepts : Char → Bool) (c : Char) (rest : List Char) :
    scan verbose accepts (c :: rest) =
      if accepts c then (scan verbose accepts (skip verbose rest)).map (c :: ·) id
      else ([], c :: rest) := by
  rw [scan]
  rfl

theorem scan_suffix (accepts : Char → Bool) (text : List Char) :
    (scan verbose accepts text).2 <:+ text := by
  fun_induction scan verbose accepts text with
  | case1 => exact List.suffix_refl _
  | case2 c rest accepted found last equal induction =>
      rw [equal] at induction
      exact suffix_behind (List.IsSuffix.trans induction (skip_suffix verbose rest))
  | case3 => exact List.suffix_refl _

theorem delimited_scan (verbose : Bool) (accepts : Char → Bool) (refused : accepts ')' = false) :
    Delimited fun text => some (scan verbose accepts text) := by
  have shrinks {text found rest} (success : some (scan verbose accepts text) = some (found, rest)) :
      rest <:+ text := by
    rw [← (Prod.mk.inj (Option.some.inj success)).2]
    exact scan_suffix accepts text
  refine ⟨shrinks, fun text => ?_⟩
  fun_induction scan verbose accepts text with
  | case1 => exact .stops [] [] rfl fun behind => by simp [scan_cons, refused]
  | case2 c rest accepted found last equal induction =>
      have longer : (c :: found, last) =
          (scan verbose accepts (skip verbose rest)).map (c :: ·) id := by
        rw [equal]
        rfl
      simp only [List.cons_append, scan_cons, accepted, if_true, longer]
      exact (Settles.afterSkip (fun _ isRest => isRest ▸ induction) (fun _ => rfl)
        fun _ _ _ _ => shrinks).map (c :: ·)
  | case3 c rest refused =>
      simp only [List.cons_append, scan_cons, refused]
      exact .gives [] (c :: rest)

section Loops

variable {Progress Result : Type} {accepts : Char → Bool} {keep : Progress → Char → Progress}
  {finish : Progress → Result} {loop : Nat → Progress → List Char → Result × List Char}

/-- A loop that scans a text and keeps what it has found. -/
structure Collects (verbose : Bool) (accepts : Char → Bool) (keep : Progress → Char → Progress)
    (finish : Progress → Result) (loop : Nat → Progress → List Char → Result × List Char) :
    Prop where
  exhausted : ∀ kept text, loop 0 kept text = (finish kept, text)
  ends : ∀ fuel kept, loop fuel kept [] = (finish kept, [])
  goesOn : ∀ fuel kept c rest, loop (fuel + 1) kept (c :: rest) =
    if accepts c then loop fuel (keep kept c) (skip verbose rest) else (finish kept, c :: rest)

theorem Collects.eq_scan (collects : Collects verbose accepts keep finish loop) {fuel : Nat}
    (kept : Progress) (enough : text.length ≤ fuel) :
    loop fuel kept text =
      (scan verbose accepts text).map (fun found => finish (found.foldl keep kept)) id := by
  induction fuel generalizing kept text with
  | zero =>
      obtain rfl := List.length_eq_zero_iff.mp (Nat.le_zero.mp enough)
      simp [collects.ends, scan]
  | succ fuel induction =>
      cases text with
      | nil => simp [collects.ends, scan]
      | cons c rest =>
          have short : (skip verbose rest).length ≤ fuel :=
            Nat.le_trans (skip_suffix verbose rest).length_le (Nat.le_of_succ_le_succ enough)
          simp only [collects.goesOn, scan_cons]
          split
          · rw [induction (keep kept c) short]
            rfl
          · rfl

theorem Collects.delimited (collects : Collects verbose accepts keep finish loop)
    (refused : accepts ')' = false) (kept : Progress) :
    Delimited fun text => some (loop text.length kept text) := by
  simp only [collects.eq_scan kept (Nat.le_refl _)]
  exact (delimited_scan verbose accepts refused).map fun found => finish (found.foldl keep kept)

end Loops

/-! ## Code points and properties -/

theorem delimited_fixedDigits (count value : Nat) :
    Delimited (fixedDigits? verbose count value) := by
  induction count generalizing value with
  | zero => exact .gives value
  | succ count induction =>
      refine .cons rfl fun c => ?_
      simp only [fixedDigits?]
      cases hexDigit? c with
      | none => exact .fails
      | some digit => exact (induction _).afterSkip

section Braces

variable {loop : Nat → List Char → List Char → Option (α × List Char)} {accepts : Char → Bool}
  {finish : List Char → Option α}

/-- A loop that collects characters up to a closing brace, past fillers. -/
structure UpToBrace (verbose : Bool) (accepts : Char → Bool) (finish : List Char → Option α)
    (loop : Nat → List Char → List Char → Option (α × List Char)) : Prop where
  exhausted : ∀ found text, loop 0 found text = none
  skips : ∀ fuel found text, loop fuel found (skip verbose text) = loop fuel found text
  ends : ∀ fuel found, loop fuel found [] = none
  finishes : ∀ fuel found rest,
    loop (fuel + 1) found ('\x7d' :: rest) = (finish found).map (·, rest)
  goesOn : ∀ fuel found c rest, c ≠ '\x7d' → (skip verbose (c :: rest) = c :: rest) →
    loop (fuel + 1) found (c :: rest) = if accepts c then loop fuel (c :: found) rest else none

theorem UpToBrace.shrinks (upToBrace : UpToBrace verbose accepts finish loop) {fuel : Nat}
    {found text rest : List Char} {result : α}
    (success : loop fuel found text = some (result, rest)) :
    rest <:+ text := by
  induction fuel generalizing found text with
  | zero => simp [upToBrace.exhausted] at success
  | succ fuel induction =>
      rw [← upToBrace.skips] at success
      refine List.IsSuffix.trans ?_ (skip_suffix verbose text)
      have bare := skip_skip verbose text
      generalize skip verbose text = text at success bare
      cases text with
      | nil => simp [upToBrace.ends] at success
      | cons c text =>
          refine suffix_behind ?_
          by_cases brace : c = '\x7d'
          · subst brace
            rw [upToBrace.finishes] at success
            obtain ⟨_, _, equal⟩ := Option.map_eq_some_iff.mp success
            cases equal
            exact List.suffix_refl _
          · rw [upToBrace.goesOn _ _ _ _ brace bare] at success
            split at success
            · exact induction success
            · cases success

theorem UpToBrace.settles (upToBrace : UpToBrace verbose accepts finish loop) {fuel : Nat}
    {text : List Char} (found : List Char) (enough : text.length < fuel) :
    Settles (loop fuel found text) fun behind =>
      loop (fuel + (behind.length + 1)) found (text ++ ')' :: behind) := by
  induction fuel generalizing found text with
  | zero => cases enough
  | succ fuel induction =>
      refine .ofSkip (upToBrace.skips _ found) (fun _ => upToBrace.skips _ found)
        (fun rest bare short => ?_) (fun _ => by rw [upToBrace.ends, upToBrace.ends])
        fun _ _ _ _ => upToBrace.shrinks
      simp only [Nat.add_right_comm fuel 1]
      cases rest with
      | nil =>
          refine .overruns (upToBrace.ends _ _) fun behind _ _ success => ?_
          rw [List.nil_append, upToBrace.goesOn _ _ _ _ (by decide) (skip_closing _ _)] at success
          split at success
          · exact upToBrace.shrinks success
          · cases success
      | cons c rest =>
          have short := short.length_le
          simp only [List.length_cons] at short
          by_cases brace : c = '\x7d'
          · subst brace
            simp only [List.cons_append, upToBrace.finishes]
            cases finish found with
            | none => exact .fails
            | some result => exact .gives result rest
          · simp only [List.cons_append, upToBrace.goesOn _ _ _ _ brace (skip_cons bare _)]
            split
            · exact induction _ (by omega)
            · exact .fails

theorem UpToBrace.delimited (upToBrace : UpToBrace verbose accepts finish loop)
    (found : List Char) : Delimited fun text => loop (text.length + 1) found text where
  shrinks := upToBrace.shrinks
  settles text := by
    simpa [Nat.add_right_comm, Nat.add_assoc] using
      upToBrace.settles found (Nat.lt_succ_self text.length)

end Braces

theorem upToBrace_bracedDigits : UpToBrace verbose (fun c => (hexDigit? c).isSome)
    (fun digits => if digits.isEmpty then none else some digits.reverse)
    (bracedDigits? verbose) where
  exhausted _ _ := rfl
  skips fuel digits text := by cases fuel <;> simp [bracedDigits?]
  ends fuel digits := by cases fuel <;> simp [bracedDigits?]
  finishes fuel digits rest := by
    simp only [bracedDigits?, skip_brace]
    split <;> rfl
  goesOn fuel digits c rest brace bare := by
    simp only [bracedDigits?, bare]

theorem upToBrace_bracedName : UpToBrace verbose (fun _ => true)
    (fun name => some name.reverse) (bracedName? verbose) where
  exhausted _ _ := rfl
  skips fuel name text := by cases fuel <;> simp [bracedName?]
  ends fuel name := by cases fuel <;> simp [bracedName?]
  finishes fuel name rest := by
    simp only [bracedName?, skip_brace]
    rfl
  goesOn fuel name c rest brace bare := by
    simp only [bracedName?, bare, if_true]

theorem delimited_codePoint (count : Nat) : Delimited (codePoint? verbose (count + 1)) := by
  refine .ofSkip verbose (by simp [codePoint?]) (by simp [codePoint?, fixedDigits?])
    fun c bare => ?_
  by_cases brace : c = '\x7b'
  · subst brace
    simp only [codePoint?, bare]
    exact (upToBrace_bracedDigits.delimited []).bind fun digits => by
      dsimp only
      exact .means _ Literal.plain
  · have digits : Delimited fun rest => fixedDigits? verbose (count + 1) 0 (c :: rest) := by
      simp only [fixedDigits?]
      cases hexDigit? c with
      | none => exact .fails
      | some digit => exact (delimited_fixedDigits count _).afterSkip
    have found (code : Nat) := Delimited.means (character? code) fun c => Literal.mk c (count == 1)
    simpa [codePoint?, bare, brace] using digits.bind fun code => found code

theorem delimited_property (negated : Bool) : Delimited (property? verbose negated) := by
  refine .ofSkip verbose (by simp [property?]) (by simp [property?]) fun c bare => ?_
  by_cases brace : c = '\x7b'
  · subst brace
    simp only [property?, bare]
    refine (upToBrace_bracedName.delimited []).bind fun name => ?_
    dsimp only
    exact .means (PropertyName.braced? name) fun found =>
      ClassSyntax.property found.1 (negated != found.2)
  · by_cases escape : c = '\\'
    · subst escape
      simp only [property?, bare]
      exact .fails
    · simpa [property?, bare, brace, escape] using
        Delimited.means (PropertyName.named? [c]) fun set => ClassSyntax.property set negated

/-! ## Word boundaries -/

theorem collects_wordName :
    Collects verbose isWordName (fun name c => c :: name) List.reverse (wordName verbose) where
  exhausted _ _ := rfl
  ends fuel _ := by cases fuel <;> rfl
  goesOn _ _ _ _ := rfl

/-- A brace behind `\b` with only fillers behind it: what it means is not decided yet. -/
def Undecided (verbose : Bool) (text : List Char) : Prop :=
  ∃ rest, text = '\x7b' :: rest ∧ skip verbose rest = []

/-- The name of a boundary up to its closing brace. -/
theorem delimited_wordName : Delimited fun text =>
    match wordName verbose text.length [] text with
    | (name, '\x7d' :: rest) => (wordAnchor? (String.ofList name)).map (·, rest)
    | _ => none := by
  change Delimited fun text => (some (wordName verbose text.length [] text)).bind fun
    | (name, '\x7d' :: rest) => (wordAnchor? (String.ofList name)).map (·, rest)
    | _ => none
  refine (collects_wordName.delimited (by decide) []).bind fun name => .cons rfl fun c => ?_
  by_cases brace : c = '\x7d'
  · subst brace
    change Delimited fun rest => (wordAnchor? (String.ofList name)).map (·, rest)
    cases wordAnchor? (String.ofList name) with
    | none => exact .fails
    | some kind => exact .gives kind
  · simpa [brace] using Delimited.fails

theorem settles_boundary (decided : ¬Undecided verbose text) :
    Settles (boundary? verbose text) fun behind => boundary? verbose (text ++ ')' :: behind) := by
  cases text with
  | nil => exact .gives WordAnchor.boundary []
  | cons c rest =>
      by_cases brace : c = '\x7b'
      · subst brace
        have solid : skip verbose rest ≠ [] := fun ended => decided ⟨rest, rfl, ended⟩
        simp only [boundary?, List.cons_append, skip_append solid]
        generalize skip verbose rest = name at solid
        cases name with
        | nil => exact absurd rfl solid
        | cons d name =>
            simp only [List.cons_append]
            split
            · exact .gives WordAnchor.boundary ('\x7b' :: rest)
            · exact delimited_wordName.settles (d :: name)
      · simpa [boundary?, brace] using Settles.gives WordAnchor.boundary (c :: rest)

/-- A closing parenthesis behind an undecided brace makes it the start of a repetition. -/
theorem boundary_of_undecided (undecided : Undecided verbose text) :
    boundary? verbose text = none ∧ ∀ behind found rest,
      boundary? verbose (text ++ ')' :: behind) = some (found, rest) →
        rest <:+ behind ∨ found = .boundary ∧ rest = text ++ ')' :: behind := by
  obtain ⟨filler, rfl, ended⟩ := undecided
  refine ⟨by simp [boundary?, ended], fun behind found rest success => ?_⟩
  simp only [boundary?, List.cons_append] at success
  split at success
  · cases success
  next c name next =>
    split at success
    · cases success
      exact .inr ⟨rfl, rfl⟩
    next isName =>
      have shorter : rest <:+ c :: name := delimited_wordName.shrinks success
      refine .inl (List.IsSuffix.trans shorter ?_)
      -- the name begins behind the parenthesis, which is no part of it
      cases settles_skip verbose filler with
      | stops _ rest alone within =>
          cases alone
          have equal := (Prod.mk.inj (Option.some.inj (within behind))).2
          rw [next, ended] at equal
          cases equal
          exact absurd (by decide) isName
      | overruns alone short => cases alone
      | ignores same short => exact short behind () _ (by rw [next])

/-! ## Escapes -/

/-- An escape of a word boundary that ends with an undecided brace. -/
def UndecidedEscape (verbose : Bool) (text : List Char) : Prop :=
  ∃ rest, text = 'b' :: rest ∧ Undecided verbose rest

theorem shrinks_boundary {found : WordAnchor} {rest : List Char}
    (success : boundary? verbose text = some (found, rest)) : rest <:+ text := by
  cases text with
  | nil => cases success; exact List.suffix_refl _
  | cons c name =>
      by_cases brace : c = '\x7b'
      · subst brace
        simp only [boundary?] at success
        split at success
        · cases success
        next d behind next =>
          split at success
          · cases success
            exact List.suffix_refl _
          · have shorter : rest <:+ d :: behind := delimited_wordName.shrinks success
            exact suffix_behind (List.IsSuffix.trans (next ▸ shorter) (skip_suffix verbose name))
      · have unread : boundary? verbose (c :: name) = some (.boundary, c :: name) := by
          simp [boundary?, brace]
        rw [unread] at success
        cases success
        exact List.suffix_refl _

/-- What is read behind the letter of an escape. -/
theorem delimited_escape {c : Char} (other : c ≠ 'b') :
    Delimited fun rest => escape? verbose (c :: rest) := by
  simp only [escape?]
  split
  · exact (delimited_codePoint 1).map Primitive.literal
  · exact (delimited_codePoint 3).map Primitive.literal
  · exact (delimited_codePoint 7).map Primitive.literal
  · exact (delimited_property false).map Primitive.set
  · exact (delimited_property true).map Primitive.set
  · exact absurd rfl other
  · exact .gives _
  · exact .gives _
  · exact .gives _
  · exact .gives _
  · exact .gives _
  · cases shorthand? c with
    | some found => exact .gives _
    | none =>
        cases control? c with
        | some control => exact .gives _
        | none =>
            dsimp only
            split
            · exact .gives _
            · exact .fails

theorem escape?_b (rest : List Char) :
    escape? verbose ('b' :: rest) = (boundary? verbose rest).map (Prod.map Primitive.word id) :=
  rfl

theorem shrinks_escape {found : Primitive} {rest : List Char}
    (success : escape? verbose text = some (found, rest)) : rest <:+ text := by
  cases text with
  | nil => cases success
  | cons c text =>
      refine suffix_behind ?_
      by_cases isBoundary : c = 'b'
      · subst isBoundary
        rw [escape?_b] at success
        obtain ⟨⟨kind, _⟩, read, equal⟩ := Option.map_eq_some_iff.mp success
        cases equal
        exact shrinks_boundary read
      · exact (delimited_escape isBoundary).shrinks success

theorem settles_escape (decided : ¬UndecidedEscape verbose text) :
    Settles (escape? verbose text) fun behind => escape? verbose (text ++ ')' :: behind) := by
  cases text with
  | nil => exact .overruns rfl fun behind _ _ => (delimited_escape (by decide)).shrinks
  | cons c rest =>
      by_cases isBoundary : c = 'b'
      · subst isBoundary
        have settles := settles_boundary fun undecided => decided ⟨rest, rfl, undecided⟩
        exact settles.map Primitive.word
      · exact (delimited_escape isBoundary).settles rest

/-- An undecided escape fails at the end of a text; with a parenthesis behind it, it reads a
boundary and either goes beyond the parenthesis or leaves the brace. -/
theorem escape_of_undecided (undecided : UndecidedEscape verbose text) :
    escape? verbose text = none ∧ ∀ behind found rest,
      escape? verbose (text ++ ')' :: behind) = some (found, rest) →
        ∃ kind, found = .word kind ∧
          (rest <:+ behind ∨ 'b' :: rest = text ++ ')' :: behind) := by
  obtain ⟨brace, rfl, undecided⟩ := undecided
  obtain ⟨alone, within⟩ := boundary_of_undecided undecided
  refine ⟨by rw [escape?_b, alone]; rfl, fun behind found rest success => ?_⟩
  rw [List.cons_append, escape?_b] at success
  obtain ⟨⟨kind, _⟩, read, equal⟩ := Option.map_eq_some_iff.mp success
  cases equal
  refine ⟨kind, rfl, (within behind kind _ read).imp_right ?_⟩
  rintro ⟨_, rfl⟩
  rfl

end Assessment.PatternText
