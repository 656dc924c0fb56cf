import Assessment.Pattern.Token
import Assessment.Proofs.ClassDelimitation

/-!
# Tokens up to a closing parenthesis

Counted repetitions and the marks of groups are delimited, as classes are, so tokens are,
but for the escape that `Delimitation` leaves out: a token that is read from a text is read
from it with a closing parenthesis behind it, unless the text ends within a comment.
-/

namespace Assessment.PatternText

variable {verbose : Bool} {text : List Char}

/-! ## Repetitions -/

theorem delimited_repetition (least : Nat) (most : Option Nat) :
    Delimited fun text => some (repetition least most text) := by
  refine .ofHead (c := '?') (by decide) (Delimited.gives (Token.repetition least most true))
    (Delimited.gives (Token.repetition least most false)) fun text head => ?_
  cases text with
  | nil => rfl
  | cons c rest => simp_all [repetition]

theorem collects_digits :
    Collects verbose isDigit (fun found c => c :: found) List.reverse (digits verbose) where
  exhausted _ _ := rfl
  ends fuel _ := by cases fuel <;> rfl
  goesOn _ _ _ _ := rfl

/-- A reader goes on behind blanks. -/
theorem Delimited.afterBlanks {α : Type} {read : List Char → Option (α × List Char)}
    (delimited : Delimited read) : Delimited fun text => read (text.dropWhile Text.isBlank) where
  shrinks := fun success =>
    (delimited.shrinks success).trans (List.dropWhile_suffix _)
  settles text := by
    simpa only [dropWhile_append_closing] using delimited.settles (text.dropWhile Text.isBlank)

theorem delimited_count : Delimited (count? verbose) := by
  have value (found : List Char) : Delimited fun rest =>
      if found.isEmpty ||
          Nat.pow 2 32 ≤ found.foldl (fun value c => 10 * value + (c.toNat - '0'.toNat)) 0 then
        none
      else
        some (found.foldl (fun value c => 10 * value + (c.toNat - '0'.toNat)) 0,
          skip verbose (rest.dropWhile Text.isBlank)) :=
    .ite .fails (Delimited.gives _).afterSkip.afterBlanks
  have number : Delimited fun text => (some (PatternText.digits verbose text.length [] text)).bind
      fun result =>
        let value := result.1.foldl (fun value c => 10 * value + (c.toNat - '0'.toNat)) 0
        if result.1.isEmpty || Nat.pow 2 32 ≤ value then none
        else some (value, skip verbose (result.2.dropWhile Text.isBlank)) :=
    (collects_digits.delimited (by decide) []).bind value
  exact number.afterBlanks

/-- The upper limit of a repetition and the closing brace. -/
def upperLimit? (verbose : Bool) (least : Nat) (text : List Char) : Option (Token × List Char) := do
  let (most, rest) ← count? verbose text
  match rest with
  | '\x7d' :: rest =>
      if least ≤ most then return repetition least (some most) (skip verbose rest) else none
  | _ => none

theorem delimited_upperLimit (verbose : Bool) (least : Nat) :
    Delimited (upperLimit? verbose least) := by
  refine delimited_count.bind fun most => .cons rfl fun c => ?_
  by_cases brace : c = '\x7d'
  · subst brace
    exact .ite (delimited_repetition least (some most)).afterSkip .fails
  · simpa [brace] using Delimited.fails

theorem counted?_eq (text : List Char) : counted? verbose text =
    (count? verbose (skip verbose text)).bind fun found =>
      match found.2 with
      | '\x7d' :: rest => some (repetition found.1 (some found.1) (skip verbose rest))
      | ',' :: rest =>
          match skip verbose rest with
          | '\x7d' :: rest => some (repetition found.1 none (skip verbose rest))
          | rest => upperLimit? verbose found.1 rest
      | _ => none := by
  rfl

theorem delimited_counted : Delimited (counted? verbose) := by
  have limit (least : Nat) : Delimited fun text => match text with
      | '\x7d' :: rest => some (repetition least none (skip verbose rest))
      | rest => upperLimit? verbose least rest := by
    refine .ofHead (c := '\x7d') (by decide) (delimited_repetition least none).afterSkip
      (delimited_upperLimit verbose least) fun text head => ?_
    cases text with
    | nil => rfl
    | cons c rest => simp_all
  rw [funext counted?_eq]
  refine delimited_count.afterSkip.bind fun least => .cons rfl fun c => ?_
  by_cases brace : c = '\x7d'
  · subst brace
    exact (delimited_repetition least (some least)).afterSkip
  by_cases comma : c = ','
  · subst comma
    exact (limit least).afterSkip
  · simpa [brace, comma] using Delimited.fails

/-! ## Groups -/

/-- Flags with the colon or parenthesis behind them. -/
def flagMarks? (isOn : Bool) (changes : List (Flag × Bool)) (text : List Char) :
    Option ((List (Flag × Bool) × Char) × List Char) :=
  match flags? isOn changes text with
  | some (changes, c :: rest) => some ((changes, c), rest)
  | _ => none

section Flags

variable {isOn : Bool} {changes : List (Flag × Bool)}

theorem flagMarks?_end {c : Char} (ends : c = ':' ∨ c = ')') (rest : List Char) :
    flagMarks? isOn changes (c :: rest) = some ((changes, c), rest) := by
  rcases ends with rfl | rfl <;> simp [flagMarks?, flags?]

theorem flagMarks?_hyphen (rest : List Char) :
    flagMarks? isOn changes ('-' :: rest) =
      match rest with
      | next :: _ =>
          if isOn && next != ':' && next != ')' then flagMarks? false changes rest else none
      | [] => none := by
  cases rest with
  | nil => simp [flagMarks?, flags?]
  | cons next rest =>
      simp only [flagMarks?, flags?, Char.reduceBEq, Bool.or_self, Bool.false_eq_true, if_false,
        if_true]
      by_cases goesOn : (isOn && next != ':' && next != ')') = true
      · simp only [goesOn, if_true]
      · simp only [goesOn, Bool.false_eq_true, if_false]

theorem flagMarks?_flag {c : Char} (noColon : c ≠ ':') (noClose : c ≠ ')') (noHyphen : c ≠ '-')
    (rest : List Char) :
    flagMarks? isOn changes (c :: rest) =
      (Flag.ofLetter? c).bind fun flag =>
        if changes.any fun change => change.1 == flag then none
        else flagMarks? isOn (changes ++ [(flag, isOn)]) rest := by
  simp only [flagMarks?, flags?, beq_eq_false_iff_ne.mpr noColon, beq_eq_false_iff_ne.mpr noClose,
    beq_eq_false_iff_ne.mpr noHyphen, Bool.or_self, Bool.false_eq_true, if_false]
  cases Flag.ofLetter? c with
  | none => rfl
  | some flag =>
      simp only [Option.bind_eq_bind, Option.bind_some]
      by_cases again : (changes.any fun change => change.1 == flag) = true
      · simp only [again, if_true]
      · simp only [again, Bool.false_eq_true, if_false]

theorem shrinks_flagMarks {found : List (Flag × Bool) × Char} {rest : List Char}
    (success : flagMarks? isOn changes text = some (found, rest)) : rest <:+ text := by
  induction text generalizing isOn changes with
  | nil => simp [flagMarks?, flags?] at success
  | cons c text induction =>
      refine suffix_behind ?_
      by_cases ends : c = ':' ∨ c = ')'
      · rw [flagMarks?_end ends] at success
        cases success
        exact List.suffix_refl _
      obtain ⟨noColon, noClose⟩ := not_or.mp ends
      by_cases isHyphen : c = '-'
      · subst isHyphen
        rw [flagMarks?_hyphen] at success
        split at success
        · split at success
          · exact induction success
          · cases success
        · cases success
      · rw [flagMarks?_flag noColon noClose isHyphen] at success
        obtain ⟨flag, _, success⟩ := Option.bind_eq_some_iff.mp success
        split at success
        · cases success
        · exact induction success

theorem delimited_flagMarks : Delimited (flagMarks? isOn changes) := by
  refine ⟨shrinks_flagMarks, fun text => ?_⟩
  induction text generalizing isOn changes with
  | nil =>
      refine .overruns (by simp [flagMarks?, flags?]) fun behind found rest success => ?_
      rw [List.nil_append, flagMarks?_end (.inr rfl)] at success
      cases success
      exact List.suffix_refl _
  | cons c rest induction =>
      simp only [List.cons_append]
      by_cases ends : c = ':' ∨ c = ')'
      · simp only [flagMarks?_end ends]
        exact .gives _ rest
      obtain ⟨noColon, noClose⟩ := not_or.mp ends
      by_cases isHyphen : c = '-'
      · subst isHyphen
        simp only [flagMarks?_hyphen]
        cases rest with
        | nil =>
            refine .overruns rfl fun behind found rest success => ?_
            simp at success
        | cons next rest =>
            simp only [List.cons_append]
            split
            · exact induction
            · exact .fails
      · simp only [flagMarks?_flag noColon noClose isHyphen]
        cases Flag.ofLetter? c with
        | none => exact .fails
        | some flag =>
            simp only [Option.bind_some]
            split
            · exact .fails
            · exact induction

end Flags

theorem groupName?_until {name : List Char} (missing : '>' ∉ name) (rest : List Char) :
    groupName? (name ++ '>' :: rest) =
      match name with
      | first :: further =>
          if isNameStart first && further.all isNamePart then some (String.ofList name, rest)
          else none
      | [] => none := by
  simp only [groupName?, takeWhile_until missing, List.drop_left]
  cases name <;> rfl

theorem groupName?_without {name : List Char} (missing : '>' ∉ name) : groupName? name = none := by
  simp only [groupName?, takeWhile_without missing, List.drop_length]

theorem shrinks_groupName {found : String} {rest : List Char}
    (success : groupName? text = some (found, rest)) : rest <:+ text := by
  by_cases member : '>' ∈ text
  · obtain ⟨name, behind, rfl, missing⟩ := List.eq_append_cons_of_mem member
    rw [groupName?_until missing] at success
    split at success
    · split at success
      · cases success
        exact suffix_behind (List.suffix_refl _) |>.trans (List.suffix_append _ _)
      · cases success
    · cases success
  · rw [groupName?_without member] at success
    cases success

theorem delimited_groupName : Delimited groupName? := by
  refine ⟨shrinks_groupName, fun text => ?_⟩
  by_cases member : '>' ∈ text
  · obtain ⟨name, rest, rfl, missing⟩ := List.eq_append_cons_of_mem member
    simp only [List.append_assoc, List.cons_append, groupName?_until missing]
    cases name with
    | nil => exact .fails
    | cons first further =>
        dsimp only
        split
        · exact .gives _ rest
        · exact .fails
  · refine .overruns (groupName?_without member) fun behind found rest success => ?_
    by_cases ends : '>' ∈ behind
    · obtain ⟨name, last, rfl, missing⟩ := List.eq_append_cons_of_mem ends
      have further : '>' ∉ text ++ ')' :: name := by simp [member, missing]
      rw [← List.cons_append, ← List.append_assoc, groupName?_until further] at success
      split at success
      · split at success
        · cases success
          exact suffix_behind (List.suffix_refl _) |>.trans (List.suffix_append _ _)
        · cases success
      · cases success
    · rw [groupName?_without (by simp [member, ends])] at success
      cases success

/-- The group that remembers its match under a name. -/
def namedGroup? (text : List Char) : Option (Token × List Char) :=
  (groupName? text).map fun (name, rest) => (.openGroup (.remembering (some name)), rest)

theorem delimited_namedGroup : Delimited namedGroup? :=
  delimited_groupName.map fun name => Token.openGroup (.remembering (some name))

/-- Flags for a group, or from here on. -/
def flagged? (text : List Char) : Option (Token × List Char) := do
  let ((changes, mark), rest) ← flagMarks? true [] text
  if mark = ':' then return (.openGroup (.plain changes), rest)
  else if mark = ')' ∧ changes ≠ [] then return (.switch changes, rest)
  else none

theorem delimited_flagged : Delimited flagged? := by
  have token (found : List (Flag × Bool) × Char) : Delimited fun rest =>
      if found.2 = ':' then some (Token.openGroup (.plain found.1), rest)
      else if found.2 = ')' ∧ found.1 ≠ [] then some (Token.switch found.1, rest)
      else none :=
    .ite (.gives _) (.ite (.gives _) .fails)
  exact delimited_flagMarks.bind token

theorem flagged?_eq (text : List Char) :
    flagged? text =
      match flags? true [] text with
      | some (changes, ':' :: rest) => some (.openGroup (.plain changes), rest)
      | some (changes, ')' :: rest) =>
          if changes.isEmpty then none else some (.switch changes, rest)
      | _ => none := by
  simp only [flagged?, flagMarks?]
  rcases flags? true [] text with _ | ⟨changes, _ | ⟨c, rest⟩⟩
  · rfl
  · rfl
  · by_cases colon : c = ':'
    · subst colon
      rfl
    by_cases close : c = ')'
    · subst close
      cases changes <;> rfl
    · simp [colon, close]

/-- What stands behind the question mark of a group. -/
theorem delimited_question : Delimited fun rest => group? false ('?' :: rest) := by
  refine .ofHeads delimited_flagged (flagged?_eq []).symm (fun rest => ?_) fun c => ?_
  · rw [flagged?_eq]
    rfl
  by_cases ahead : c = '='
  · subst ahead
    exact .inl .fails
  by_cases notAhead : c = '!'
  · subst notAhead
    exact .inl .fails
  by_cases angle : c = '<'
  · subst angle
    refine .inl (.ofHeads delimited_namedGroup rfl (fun _ => rfl) fun c => ?_)
    by_cases behind : c = '='
    · subst behind
      exact .inl .fails
    by_cases notBehind : c = '!'
    · subst notBehind
      exact .inl .fails
    · exact .inr fun rest => by simp [group?, skip, namedGroup?, behind, notBehind]
  by_cases isP : c = 'P'
  · subst isP
    refine .inl (.ofHead (c := '<') (by decide) delimited_namedGroup .fails fun text head => ?_)
    have noFlag : flags? true [] ('P' :: text) = none := by simp [flags?, Flag.ofLetter?]
    cases text with
    | nil => rfl
    | cons c text =>
        have other : c ≠ '<' := by simpa using head
        simp [group?, skip, other, noFlag]
  · refine .inr fun rest => ?_
    simp [group?, skip, ahead, notAhead, angle, isP, -List.isEmpty_iff]
    exact (flagged?_eq (c :: rest)).symm

theorem delimited_group : Delimited (group? verbose) := by
  have bare : Delimited (group? false) := by
    refine .ofHead (c := '?') (by decide) delimited_question
      (Delimited.gives (Token.openGroup (.remembering none))) fun text head => ?_
    cases text with
    | nil => rfl
    | cons c rest => simp_all [group?, skip]
  exact bare.afterSkip

/-! ## Tokens -/

theorem token?_escape (rest : List Char) :
    token? verbose ('\\' :: rest) = (escape? verbose rest).map (Prod.map Token.primitive id) :=
  rfl

/-- What is read behind the first character of a token. -/
theorem delimited_token {c : Char} (noEscape : c ≠ '\\') :
    Delimited fun rest => token? verbose (c :: rest) := by
  by_cases opens : c = '('
  · subst opens
    exact delimited_group
  by_cases optional : c = '?'
  · subst optional
    exact delimited_repetition 0 (some 1)
  by_cases star : c = '*'
  · subst star
    exact delimited_repetition 0 none
  by_cases plus : c = '+'
  · subst plus
    exact delimited_repetition 1 none
  by_cases brace : c = '\x7b'
  · subst brace
    exact delimited_counted
  by_cases bracket : c = '['
  · subst bracket
    exact delimited_class.map fun written => Token.primitive (.set written)
  by_cases mark : c = ')' ∨ c = '|' ∨ c = '.' ∨ c = '^' ∨ c = '$'
  · rcases mark with rfl | rfl | rfl | rfl | rfl <;> exact .gives _
  · simp only [not_or] at mark
    obtain ⟨close, bar, dot, start, finish⟩ := mark
    have literal (rest : List Char) :
        token? verbose (c :: rest) = some (.primitive (.literal (.plain c)), rest) := by
      simp [token?, *]
    simpa only [literal] using Delimited.gives (Token.primitive (.literal (.plain c)))

/-- A token is not empty. -/
theorem shrinks_token {found : Token} {rest : List Char}
    (success : token? verbose text = some (found, rest)) :
    ∃ c further, text = c :: further ∧ rest <:+ further := by
  cases text with
  | nil => cases success
  | cons c text =>
      refine ⟨c, text, rfl, ?_⟩
      by_cases escape : c = '\\'
      · subst escape
        rw [token?_escape] at success
        obtain ⟨⟨part, _⟩, read, equal⟩ := Option.map_eq_some_iff.mp success
        cases equal
        exact shrinks_escape read
      · exact (delimited_token escape).shrinks success

/-- A text that begins with an undecided escape. -/
def UndecidedToken (verbose : Bool) (text : List Char) : Prop :=
  ∃ rest, text = '\\' :: rest ∧ UndecidedEscape verbose rest

theorem settles_token (decided : ¬UndecidedToken verbose text) :
    Settles (token? verbose text) fun behind => token? verbose (text ++ ')' :: behind) := by
  cases text with
  | nil => exact .overruns rfl fun behind _ _ => (delimited_token (by decide)).shrinks
  | cons c rest =>
      by_cases escape : c = '\\'
      · subst escape
        have settles := settles_escape fun undecided => decided ⟨rest, rfl, undecided⟩
        exact settles.map Token.primitive
      · exact (delimited_token escape).settles rest

/-- An undecided escape is no token.  With a closing parenthesis behind it, it is one that goes
beyond the parenthesis, or one that leaves a brace and fillers before it. -/
theorem token_of_undecided (undecided : UndecidedToken verbose text) :
    token? verbose text = none ∧ ∀ behind found rest,
      token? verbose (text ++ ')' :: behind) = some (found, rest) →
        (∃ part, found = .primitive part) ∧ (rest <:+ behind ∨
          ∃ filler, skip verbose filler = [] ∧ rest = '\x7b' :: (filler ++ ')' :: behind)) := by
  obtain ⟨escape, rfl, undecided⟩ := undecided
  obtain ⟨alone, within⟩ := escape_of_undecided undecided
  refine ⟨by rw [token?_escape, alone]; rfl, fun behind found rest success => ?_⟩
  rw [List.cons_append, token?_escape] at success
  obtain ⟨⟨part, _⟩, read, equal⟩ := Option.map_eq_some_iff.mp success
  cases equal
  obtain ⟨kind, _, short⟩ := within behind part _ read
  refine ⟨⟨part, rfl⟩, short.imp_right fun left => ?_⟩
  obtain ⟨brace, rfl, filler, rfl, ended⟩ := undecided
  exact ⟨filler, ended, by simpa using left⟩

end Assessment.PatternText
