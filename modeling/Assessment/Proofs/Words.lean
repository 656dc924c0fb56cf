import Assessment.Text.Blank
import Mathlib.Data.List.DropRight

/-!
# Trimmed texts and their words

Trimming leaves alone what neither begins nor ends with a blank, so trimming twice is
trimming once.  A trimmed text has two words just if it consists of them and of blanks
between them.
-/

namespace Assessment.Text

variable {text left right : List Char}

theorem trimEnd_eq_rdropWhile (text : List Char) : trimEnd text = text.rdropWhile isBlank :=
  rfl

theorem trim_eq_self (first : ∀ nonempty : text ≠ [], isBlank (text.head nonempty) = false)
    (last : ∀ nonempty : text ≠ [], isBlank (text.getLast nonempty) = false) :
    trim text = text := by
  have startKept : trimStart text = text := by
    refine List.dropWhile_eq_self_iff.mpr fun long => ?_
    rw [← List.head_eq_getElem (List.ne_nil_of_length_pos long), first]
    simp
  rw [trim, startKept, trimEnd_eq_rdropWhile]
  refine List.rdropWhile_eq_self_iff.mpr fun nonempty => ?_
  rw [last]
  simp

theorem trim_of_no_blank (none : ∀ c ∈ text, isBlank c = false) : trim text = text :=
  trim_eq_self (fun _ => none _ (List.head_mem _)) (fun _ => none _ (List.getLast_mem _))

theorem head_trim (nonempty : trim text ≠ []) : isBlank ((trim text).head nonempty) = false := by
  -- the end that is cut off leaves the first character where it was
  have kept : trim text <+: trimStart text := List.rdropWhile_prefix _ _
  rw [kept.head nonempty]
  exact List.head_dropWhile_not _ _

theorem getLast_trim (nonempty : trim text ≠ []) :
    isBlank ((trim text).getLast nonempty) = false :=
  eq_false_of_ne_true (List.rdropWhile_last_not isBlank (trimStart text) nonempty)

theorem trim_trim (text : List Char) : trim (trim text) = trim text :=
  trim_eq_self head_trim getLast_trim

/-! ## Words -/

theorem split_of_none {separates : Char → Bool} (none : ∀ c ∈ text, separates c = false) :
    split separates text = [text] := by
  induction text with
  | nil => rfl
  | cons c rest induction =>
      have later := induction fun d member => none d (List.mem_cons_of_mem c member)
      simp [split, none c List.mem_cons_self, later]

theorem split_append_cons {separates : Char → Bool} {separator : Char}
    (none : ∀ c ∈ left, separates c = false) (separated : separates separator = true) :
    split separates (left ++ separator :: right) = left :: split separates right := by
  induction left with
  | nil => simp [split, separated]
  | cons c rest induction =>
      have later := induction fun d member => none d (List.mem_cons_of_mem c member)
      simp [split, none c List.mem_cons_self, later]

/-- A word: some characters, and no blank among them. -/
def IsWord (text : List Char) : Prop :=
  text ≠ [] ∧ ∀ c ∈ text, isBlank c = false

theorem words_pair (leftWord : IsWord left) (rightWord : IsWord right) :
    words (left ++ ' ' :: right) = [left, right] := by
  have leftKept : (!left.isEmpty) = true := by simp [leftWord.1]
  have rightKept : (!right.isEmpty) = true := by simp [rightWord.1]
  rw [words, split_append_cons leftWord.2 (by decide), split_of_none rightWord.2]
  simp [leftKept, rightKept]

theorem trim_pair (leftWord : IsWord left) (rightWord : IsWord right) :
    trim (left ++ ' ' :: right) = left ++ ' ' :: right := by
  refine trim_eq_self (fun _ => ?_) fun _ => ?_
  · rw [List.head_append_of_ne_nil leftWord.1]
    exact leftWord.2 _ (List.head_mem _)
  · rw [List.getLast_append_of_ne_nil (by simp) (by simp), List.getLast_cons rightWord.1]
    exact rightWord.2 _ (List.getLast_mem _)

theorem words_cons_of_blank {c : Char} (blank : isBlank c = true) :
    words (c :: text) = words text := by
  simp [words, split, blank]

theorem words_append_of_blanks {gap : List Char} (blanks : ∀ c ∈ gap, isBlank c = true) :
    words (gap ++ text) = words text := by
  induction gap with
  | nil => rfl
  | cons c rest induction =>
      obtain ⟨blank, later⟩ := List.forall_mem_cons.mp blanks
      rw [List.cons_append, words_cons_of_blank blank, induction later]

/-- The first word of a text ends before the first blank behind it. -/
theorem words_append_cons {c : Char} (word : IsWord left) (blank : isBlank c = true) :
    words (left ++ c :: right) = left :: words right := by
  simp [words, split_append_cons word.2 blank, word.1]

theorem words_of_isWord (word : IsWord text) : words text = [text] := by
  simp [words, split_of_none word.2, word.1]

/-- A first word stands behind blanks, and before a blank or the end. -/
theorem exists_of_words_eq_cons {others : List (List Char)} (first : words text = left :: others) :
    ∃ gap rest, text = gap ++ (left ++ rest) ∧ (∀ c ∈ gap, isBlank c = true) ∧ IsWord left ∧
      (∀ c, rest.head? = some c → isBlank c = true) ∧ words rest = others := by
  induction text with
  | nil => cases first
  | cons c behind induction =>
      cases blank : isBlank c with
      | true =>
          rw [words_cons_of_blank blank] at first
          obtain ⟨gap, rest, rfl, blanks, parts⟩ := induction first
          exact ⟨c :: gap, rest, rfl, List.forall_mem_cons.mpr ⟨blank, blanks⟩, parts⟩
      | false =>
          let isLetter := fun c => !isBlank c
          have parts : (c :: behind).takeWhile isLetter ++ (c :: behind).dropWhile isLetter =
              c :: behind := List.takeWhile_append_dropWhile
          have stops := List.head?_dropWhile_not isLetter (c :: behind)
          have word : IsWord ((c :: behind).takeWhile isLetter) := by
            refine ⟨by simp [isLetter, blank], fun d member => ?_⟩
            simpa [isLetter] using List.mem_takeWhile_imp member
          generalize (c :: behind).takeWhile isLetter = letters at parts word
          generalize (c :: behind).dropWhile isLetter = rest at parts stops
          rw [← parts] at first ⊢
          cases rest with
          | nil =>
              rw [List.append_nil, words_of_isWord word] at first
              cases first
              exact ⟨[], [], by simp, nofun, word, nofun, rfl⟩
          | cons d rest =>
              have separates : isBlank d = true := by simpa [isLetter] using stops
              rw [words_append_cons word separates] at first
              cases first
              refine ⟨[], d :: rest, rfl, nofun, word, ?_, words_cons_of_blank separates⟩
              rintro _ ⟨⟩
              exact separates

theorem blanks_of_words_eq_nil (none : words text = []) : ∀ c ∈ text, isBlank c = true := by
  induction text with
  | nil => nofun
  | cons c rest induction =>
      cases blank : isBlank c with
      | true =>
          rw [words_cons_of_blank blank] at none
          exact List.forall_mem_cons.mpr ⟨blank, induction none⟩
      | false =>
          -- a text that begins with a letter has a first piece that is not empty
          simp only [words, split, blank] at none
          cases pieces : split isBlank rest <;> simp [pieces] at none

/-- A trimmed text has two words just if it is two words with blanks between them. -/
theorem words_trim_eq_pair_iff :
    words (trim text) = [left, right] ↔
      ∃ gap, trim text = left ++ gap ++ right ∧ gap ≠ [] ∧ (∀ c ∈ gap, isBlank c = true) ∧
        IsWord left ∧ IsWord right := by
  constructor
  · intro pair
    have head := @head_trim text
    have last := @getLast_trim text
    generalize trim text = trimmed at pair head last
    obtain ⟨before, rest, rfl, beforeBlank, leftWord, ended, second⟩ := exists_of_words_eq_cons pair
    obtain ⟨gap, behind, rfl, gapBlank, rightWord, _, none⟩ := exists_of_words_eq_cons second
    have behindBlank := blanks_of_words_eq_nil none
    obtain rfl : before = [] := by
      cases before with
      | nil => rfl
      | cons c others => simpa [beforeBlank c List.mem_cons_self] using head (by simp)
    obtain rfl : behind = [] := by
      by_contra nonempty
      have blank := behindBlank _ (List.getLast_mem nonempty)
      have noBlank := last (by simp [nonempty])
      simp [List.getLast_append_of_ne_nil, nonempty, blank] at noBlank
    refine ⟨gap, by simp, ?_, gapBlank, leftWord, rightWord⟩
    rintro rfl
    obtain ⟨c, others, rfl⟩ := List.exists_cons_of_ne_nil rightWord.1
    exact absurd (ended c rfl) (by simp [rightWord.2 c List.mem_cons_self])
  · rintro ⟨gap, parts, nonempty, gapBlank, leftWord, rightWord⟩
    obtain ⟨c, others, rfl⟩ := List.exists_cons_of_ne_nil nonempty
    obtain ⟨blank, blanks⟩ := List.forall_mem_cons.mp gapBlank
    rw [parts, List.append_assoc, List.cons_append, words_append_cons leftWord blank,
      words_append_of_blanks blanks, words_of_isWord rightWord]

end Assessment.Text
