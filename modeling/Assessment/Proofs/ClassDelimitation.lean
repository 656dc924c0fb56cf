import Assessment.Pattern.Class
import Assessment.Proofs.Delimitation
import Mathlib.Data.List.TakeWhile

/-!
# Classes up to a closing parenthesis

Classes are delimited: named ones, which end with a colon and a bracket of their own, and
bracketed ones.  A parenthesis within brackets is a member like others, so a class that is
still open where the text ends goes on behind the parenthesis.
-/

namespace Assessment.PatternText

variable {verbose : Bool} {text : List Char}

/-! ## Classes with a name -/

theorem not_mem_of_ascii {name : String} {set : CharacterSet}
    (known : Alphabet.ascii? name = some set) : ')' ∉ name.toList := by
  unfold Alphabet.ascii? at known
  split at known <;> first | simp | cases known

section Until

variable {c : Char} {name : List Char}

theorem takeWhile_until (missing : c ∉ name) (rest : List Char) :
    (name ++ c :: rest).takeWhile (· != c) = name := by
  rw [List.takeWhile_append_of_pos]
  · simp
  · intro d member
    simpa using fun equal : d = c => missing (equal ▸ member)

theorem takeWhile_without (missing : c ∉ name) : name.takeWhile (· != c) = name := by
  rw [List.takeWhile_eq_self_iff]
  intro d member
  simpa using fun equal : d = c => missing (equal ▸ member)

end Until

/-- The name of a class and the marks behind it. -/
def className? (negated : Bool) (text : List Char) : Option (ClassSyntax × List Char) :=
  let name := text.takeWhile (· != ':')
  match text.drop name.length with
  | ':' :: ']' :: rest =>
      (Alphabet.ascii? (String.ofList name)).map fun set => (.ascii set negated, rest)
  | _ => none

theorem className?_until {name : List Char} (missing : ':' ∉ name) (negated : Bool)
    (rest : List Char) :
    className? negated (name ++ ':' :: rest) =
      match rest with
      | ']' :: rest =>
          (Alphabet.ascii? (String.ofList name)).map fun set => (.ascii set negated, rest)
      | _ => none := by
  simp only [className?, takeWhile_until missing, List.drop_left]
  cases rest with
  | nil => rfl
  | cons c rest =>
      by_cases bracket : c = ']'
      · subst bracket
        rfl
      · simp [bracket]

theorem className?_without {name : List Char} (missing : ':' ∉ name) (negated : Bool) :
    className? negated name = none := by
  simp [className?, takeWhile_without missing]

/-- Names of classes have no closing parenthesis. -/
theorem className?_append (negated : Bool) (text behind : List Char) :
    className? negated (text ++ ')' :: behind) =
      (className? negated text).map (Prod.map id (· ++ ')' :: behind)) := by
  by_cases member : ':' ∈ text
  · obtain ⟨name, rest, rfl, missing⟩ := List.eq_append_cons_of_mem member
    rw [List.append_assoc, List.cons_append, className?_until missing, className?_until missing]
    cases rest with
    | nil => rfl
    | cons c rest =>
        by_cases bracket : c = ']'
        · subst bracket
          simp [Function.comp_def]
        · simp [bracket]
  · rw [className?_without member]
    by_cases ends : ':' ∈ behind
    · obtain ⟨name, rest, rfl, missing⟩ := List.eq_append_cons_of_mem ends
      have further : ':' ∉ text ++ ')' :: name := by simp [member, missing]
      have unknown : Alphabet.ascii? (String.ofList (text ++ ')' :: name)) = none := by
        cases known : Alphabet.ascii? _ with
        | none => rfl
        | some set => exact absurd (by simp) (not_mem_of_ascii known)
      rw [← List.cons_append, ← List.append_assoc, className?_until further, unknown]
      split <;> rfl
    · exact className?_without (by simp [member, ends]) negated

theorem named?_cons (rest : List Char) : named? (':' :: rest) =
    match rest with
    | '^' :: rest => className? true rest
    | _ => className? false rest := by
  cases rest with
  | nil => rfl
  | cons c rest =>
      by_cases negated : c = '^'
      · subst negated
        rfl
      · simp only [named?, className?]
        split <;> simp_all

theorem named?_append (text behind : List Char) :
    named? (text ++ ')' :: behind) = (named? text).map (Prod.map id (· ++ ')' :: behind)) := by
  cases text with
  | nil => rfl
  | cons c rest =>
      by_cases colon : c = ':'
      · subst colon
        simp only [List.cons_append, named?_cons]
        cases rest with
        | nil => exact className?_append false [] behind
        | cons d rest =>
            by_cases negated : d = '^'
            · subst negated
              exact className?_append true rest behind
            · simpa [negated] using className?_append false (d :: rest) behind
      · simp [named?, colon]

theorem shrinks_className {negated : Bool} {found : ClassSyntax} {rest : List Char}
    (success : className? negated text = some (found, rest)) : rest <:+ text := by
  have shorter := List.drop_suffix (text.takeWhile (· != ':')).length text
  simp only [className?] at success
  split at success
  next behind equal =>
    obtain ⟨set, _, same⟩ := Option.map_eq_some_iff.mp success
    cases same
    rw [equal] at shorter
    exact (suffix_behind (suffix_behind (List.suffix_refl _))).trans shorter
  next => cases success

theorem shrinks_named {found : ClassSyntax} {rest : List Char}
    (success : named? text = some (found, rest)) : rest <:+ text := by
  cases text with
  | nil => cases success
  | cons c text =>
      refine suffix_behind ?_
      by_cases colon : c = ':'
      · subst colon
        rw [named?_cons] at success
        split at success
        · exact suffix_behind (shrinks_className success)
        · exact shrinks_className success
      · simp [named?, colon] at success

/-! ## Ranges -/

/-- A character or escape that may stand within brackets. -/
def member? (verbose : Bool) (text : List Char) : Option (Primitive × List Char) := do
  let (found, rest) ← classItem? verbose text
  if (asClass? found).isSome then return (found, rest) else none

theorem member?_cons {c : Char} (other : c ≠ '\\') (rest : List Char) :
    member? verbose (c :: rest) = some (.literal (.plain c), rest) := by
  have item : classItem? verbose (c :: rest) = some (.literal (.plain c), rest) := by
    simp [classItem?]
  simp [member?, item, asClass?]

theorem member?_escape (rest : List Char) :
    member? verbose ('\\' :: rest) =
      (escape? verbose rest).bind fun found =>
        if (asClass? found.1).isSome then some found else none :=
  rfl

theorem delimited_memberEscape : Delimited fun rest => member? verbose ('\\' :: rest) where
  shrinks := by
    intro text found rest success
    rw [member?_escape] at success
    obtain ⟨⟨first, _⟩, read, kept⟩ := Option.bind_eq_some_iff.mp success
    split at kept
    · cases kept
      exact shrinks_escape read
    · cases kept
  settles text := by
    have checked (found : Primitive) : Delimited fun rest =>
        if (asClass? found).isSome then some (found, rest) else none :=
      .ite (.gives found) .fails
    by_cases undecided : UndecidedEscape verbose text
    · -- the escape is a boundary if it is one at all, and no boundary is a member
      obtain ⟨alone, within⟩ := escape_of_undecided undecided
      refine .overruns (by rw [member?_escape, alone]; rfl) fun behind found rest success => ?_
      rw [member?_escape] at success
      obtain ⟨⟨first, _⟩, read, kept⟩ := Option.bind_eq_some_iff.mp success
      obtain ⟨kind, rfl, _⟩ := within behind first _ read
      cases kept
    · exact (settles_escape undecided).bind (fun found rest _ => (checked found).settles rest)
        (fun _ _ => rfl) fun _ found _ _ _ => (checked found).shrinks

theorem delimited_memberBehind (c : Char) : Delimited fun rest => member? verbose (c :: rest) := by
  by_cases escape : c = '\\'
  · subst escape
    exact delimited_memberEscape
  · simp only [member?_cons escape]
    exact .gives _

theorem delimited_member : Delimited (member? verbose) :=
  .cons rfl delimited_memberBehind

theorem dropWhile_append_closing (text behind : List Char) :
    (text ++ ')' :: behind).dropWhile Text.isBlank =
      text.dropWhile Text.isBlank ++ ')' :: behind := by
  have letter : Text.isBlank ')' = false := by decide
  induction text with
  | nil => simp [letter]
  | cons c rest induction =>
      cases blank : Text.isBlank c <;> simp [blank, induction]

theorem peekBehindBlanks_append (text behind : List Char) :
    peekBehindBlanks (text ++ ')' :: behind) = (peekBehindBlanks text).or (some ')') := by
  simp only [peekBehindBlanks, dropWhile_append_closing]
  generalize text.dropWhile Text.isBlank = text
  cases text with
  | nil => rfl
  | cons c rest =>
      by_cases comment : c = '#'
      · subst comment
        simp only [List.cons_append, dropWhile_append_closing]
        cases rest.dropWhile Text.isBlank <;> rfl
      · simp [comment]

/-- A parenthesis behind a text neither ends a class nor begins an operation. -/
theorem startsRange_append (text behind : List Char) :
    startsRange verbose (text ++ ')' :: behind) = startsRange verbose text := by
  cases text with
  | nil => rfl
  | cons c rest =>
      by_cases hyphen : c = '-'
      · subst hyphen
        simp only [List.cons_append, startsRange, peekBehindBlanks_append]
        cases verbose with
        | true => cases peekBehindBlanks rest <;> rfl
        | false => cases rest <;> rfl
      · simp [startsRange, hyphen]

/-- What stands behind the first character of a range, or behind a single item. -/
def rangeBehind (verbose : Bool) (first : Primitive) (text : List Char) :
    Option (ClassSyntax × List Char) :=
  if startsRange verbose text then do
    let (last, rest) ← member? verbose (skip verbose (text.drop 1))
    let first ← asLiteral? first
    let last ← asLiteral? last
    if first.character.toNat ≤ last.character.toNat then
      return (.span first last, rest)
    else none
  else do
    let item ← asClass? first
    return (item, text)

theorem asLiteral?_eq_none {item : Primitive} (noMember : asClass? item = none) :
    asLiteral? item = none := by
  cases item <;> first | rfl | cases noMember

theorem classRange?_eq (text : List Char) :
    classRange? verbose text =
      (member? verbose text).bind fun found =>
        rangeBehind verbose found.1 (skip verbose found.2) := by
  simp only [classRange?, member?]
  cases classItem? verbose text with
  | none => rfl
  | some first =>
      obtain ⟨first, rest⟩ := first
      simp only [Option.bind_some, Option.bind_eq_bind]
      cases isMember : asClass? first with
      | none =>
          simp [asLiteral?_eq_none isMember]
      | some item =>
          simp only [rangeBehind, member?, Option.isSome_some, if_true, Option.pure_def,
            Option.bind_some, Option.bind_eq_bind, isMember]
          split
          · cases classItem? verbose _ with
            | none => rfl
            | some last =>
                cases isLast : asClass? last.1 with
                | none => simp [asLiteral?_eq_none isLast, isLast]
                | some _ => simp [isLast]
          · rfl

theorem delimited_rangeBehind (first : Primitive) : Delimited (rangeBehind verbose first) := by
  have last : Delimited fun text => (member? verbose (skip verbose text)).bind fun found =>
      (asLiteral? first).bind fun first =>
        (asLiteral? found.1).bind fun last =>
          if first.character.toNat ≤ last.character.toNat then
            some (ClassSyntax.span first last, found.2)
          else none := by
    refine delimited_member.afterSkip.bind fun found => ?_
    cases asLiteral? first with
    | none => exact .fails
    | some first =>
        dsimp only
        cases asLiteral? found with
        | none => exact .fails
        | some last =>
            exact .ite (.gives _) .fails
  have item := Delimited.means (asClass? first) id
  constructor
  · intro text found rest success
    simp only [rangeBehind] at success
    split at success
    · exact (last.shrinks success).trans (List.drop_suffix 1 text)
    · exact item.shrinks success
  · intro text
    simp only [rangeBehind, startsRange_append]
    split
    next starts =>
      cases text with
      | nil => cases starts
      | cons c rest => exact last.settles rest
    next => exact item.settles text

theorem delimited_rangeFrom (c : Char) : Delimited fun rest => classRange? verbose (c :: rest) := by
  simp only [classRange?_eq]
  exact (delimited_memberBehind c).bind fun first => (delimited_rangeBehind first).afterSkip

/-! ## Bracketed classes -/

theorem collects_leadingHyphens :
    Collects verbose (· == '-') (fun items _ => .span (.plain '-') (.plain '-') :: items) id
      (leadingHyphens verbose) where
  exhausted _ _ := rfl
  ends fuel _ := by cases fuel <;> rfl
  goesOn fuel items c rest := by
    by_cases isHyphen : c = '-'
    · subst isHyphen
      rfl
    · simp [leadingHyphens, isHyphen]

/-- What `openClass` reads, as a reader. -/
def opening (verbose : Bool) (text : List Char) :
    Option ((Bool × List ClassSyntax) × List Char) :=
  let (negated, items, rest) := openClass verbose text
  some ((negated, items), rest)

/-- What `openClass` makes of the hyphens and what stands behind them. -/
def afterHyphens (verbose negated : Bool) (items : List ClassSyntax) (text : List Char) :
    Option ((Bool × List ClassSyntax) × List Char) :=
  let (negated, items, rest) := match items, text with
    | [], ']' :: rest => (negated, [.span (.plain ']') (.plain ']')], skip verbose rest)
    | _, _ => (negated, items, text)
  some ((negated, items), rest)

theorem delimited_afterHyphens (negated : Bool) (items : List ClassSyntax) :
    Delimited (afterHyphens verbose negated items) := by
  cases items with
  | cons item items => exact .gives (negated, item :: items)
  | nil =>
      refine .ofHead (c := ']') (by decide) (Delimited.gives (negated, _)).afterSkip
        (Delimited.gives (negated, [])) fun text head => ?_
      cases text with
      | nil => rfl
      | cons c rest =>
          have other : c ≠ ']' := by simpa using head
          simp [afterHyphens, other]

/-- The members of a class that stand before all others. -/
def firstMembers (verbose negated : Bool) (text : List Char) :
    Option ((Bool × List ClassSyntax) × List Char) :=
  let hyphens := leadingHyphens verbose text.length [] text
  afterHyphens verbose negated hyphens.1 hyphens.2

theorem delimited_firstMembers (verbose negated : Bool) :
    Delimited (firstMembers verbose negated) := by
  change Delimited fun text => (some (leadingHyphens verbose text.length [] text)).bind
    fun hyphens => afterHyphens verbose negated hyphens.1 hyphens.2
  exact (collects_leadingHyphens.delimited (by decide) []).bind (delimited_afterHyphens negated)

/-- Whether a class begins with the mark of a negation, and what is behind that. -/
def negation (verbose : Bool) : List Char → Bool × List Char
  | '^' :: rest => (true, skip verbose rest)
  | text => (false, text)

theorem opening_eq (text : List Char) :
    opening verbose text =
      firstMembers verbose (negation verbose (skip verbose text)).1
        (negation verbose (skip verbose text)).2 := by
  simp only [opening, openClass]
  generalize skip verbose text = text
  cases text with
  | nil => rfl
  | cons c rest =>
      by_cases mark : c = '^'
      · subst mark
        rfl
      · simp only [negation, List.cons.injEq, mark, false_and, imp_self, implies_true]
        rfl

theorem delimited_opening : Delimited (opening verbose) := by
  have inner : Delimited fun text =>
      firstMembers verbose (negation verbose text).1 (negation verbose text).2 := by
    refine .ofHead (c := '^') (by decide) (delimited_firstMembers verbose true).afterSkip
      (delimited_firstMembers verbose false) fun text head => ?_
    cases text with
    | nil => rfl
    | cons c rest =>
        have other : c ≠ '^' := by simpa using head
        simp [negation, other]
  rw [funext opening_eq]
  exact inner.afterSkip

/-- The operation between sets that a character written twice means. -/
def setOperation? : Char → Option SetOperation
  | '&' => some .intersection
  | '-' => some .difference
  | '~' => some .symmetricDifference
  | _ => none

def operation? : List Char → Option (SetOperation × List Char)
  | c :: d :: rest => if c = d then (setOperation? c).map (·, rest) else none
  | _ => none

theorem operation?_append (text behind : List Char) :
    operation? (text ++ ')' :: behind) =
      (operation? text).map (Prod.map id (· ++ ')' :: behind)) := by
  rcases text with _ | ⟨c, _ | ⟨d, rest⟩⟩
  · cases behind <;> simp [operation?, setOperation?]
  · simp only [operation?, List.cons_append, List.nil_append]
    split
    next equal =>
      subst equal
      rfl
    next => rfl
  · simp only [operation?, List.cons_append]
    split
    · simp [Function.comp_def]
    · rfl

section Content

variable {pending : Option (SetOperation × ClassSyntax)} {items : List ClassSyntax} {fuel : Nat}

theorem classContent?_nil : classContent? verbose fuel pending items [] = none := by
  cases fuel <;> simp [classContent?]

theorem classContent?_skip (text : List Char) :
    classContent? verbose fuel pending items (skip verbose text) =
      classContent? verbose fuel pending items text := by
  cases fuel <;> simp [classContent?]

theorem classContent?_close (rest : List Char) :
    classContent? verbose (fuel + 1) pending items (']' :: rest) =
      some (settle pending items, rest) := by
  simp only [classContent?, skip_of_letter (c := ']') (by decide) (by decide)]

theorem classContent?_open (rest : List Char) :
    classContent? verbose (fuel + 1) pending items ('[' :: rest) =
      match named? rest with
      | some (item, rest) => classContent? verbose fuel pending (item :: items) rest
      | none =>
          (opening verbose rest).bind fun opened =>
            (classContent? verbose fuel none opened.1.2 opened.2).bind fun content =>
              classContent? verbose fuel pending (.bracket opened.1.1 content.1 :: items)
                content.2 := by
  simp only [classContent?, skip_of_letter (c := '[') (by decide) (by decide)]
  rfl

theorem classContent?_other {c : Char} (noClose : c ≠ ']') (noOpen : c ≠ '[') {rest : List Char}
    (bare : skip verbose (c :: rest) = c :: rest) :
    classContent? verbose (fuel + 1) pending items (c :: rest) =
      match operation? (c :: rest) with
      | some (kind, rest) =>
          classContent? verbose fuel (some (kind, settle pending items)) [] rest
      | none =>
          (classRange? verbose (c :: rest)).bind fun found =>
            classContent? verbose fuel pending (found.1 :: items) found.2 := by
  simp only [classContent?, bare]
  split
  next nothing => cases nothing
  next close => exact absurd (List.cons.inj close).1 noClose
  next rest equal => rw [equal]; rfl
  next rest equal => rw [equal]; rfl
  next rest equal => rw [equal]; rfl
  next opens => exact absurd (List.cons.inj opens).1 noOpen
  next noIntersection noDifference noSymmetric _ =>
    have none : operation? (c :: rest) = none := by
      cases rest with
      | nil => rfl
      | cons d rest =>
          simp only [operation?]
          split
          next equal =>
            subst equal
            unfold setOperation?
            split <;> simp_all
          next => rfl
    rw [none]
    rfl

theorem shrinks_operation {kind : SetOperation} {rest : List Char}
    (success : operation? text = some (kind, rest)) : ∃ c d, text = c :: d :: rest := by
  unfold operation? at success
  split at success
  · split at success
    · obtain ⟨_, _, equal⟩ := Option.map_eq_some_iff.mp success
      cases equal
      exact ⟨_, _, rfl⟩
    · cases success
  · cases success

theorem shrinks_classContent {found : ClassSyntax} {rest : List Char}
    (success : classContent? verbose fuel pending items text = some (found, rest)) :
    rest <:+ text := by
  induction fuel generalizing pending items text found rest with
  | zero => cases success
  | succ fuel induction =>
      rw [← classContent?_skip] at success
      refine List.IsSuffix.trans ?_ (skip_suffix verbose text)
      have bare := skip_skip verbose text
      generalize skip verbose text = text at success bare
      cases text with
      | nil => simp [classContent?_nil] at success
      | cons c text =>
          refine suffix_behind ?_
          by_cases close : c = ']'
          · subst close
            rw [classContent?_close] at success
            cases success
            exact List.suffix_refl _
          by_cases opens : c = '['
          · subst opens
            rw [classContent?_open] at success
            split at success
            next named => exact List.IsSuffix.trans (induction success) (shrinks_named named)
            next =>
              obtain ⟨opened, first, success⟩ := Option.bind_eq_some_iff.mp success
              obtain ⟨content, second, success⟩ := Option.bind_eq_some_iff.mp success
              exact List.IsSuffix.trans (induction success)
                (List.IsSuffix.trans (induction second) (delimited_opening.shrinks first))
          · rw [classContent?_other close opens bare] at success
            split at success
            next operation =>
              obtain ⟨_, _, equal⟩ := shrinks_operation operation
              cases equal
              exact suffix_behind (induction success)
            next =>
              obtain ⟨item, first, success⟩ := Option.bind_eq_some_iff.mp success
              exact List.IsSuffix.trans (induction success) ((delimited_rangeFrom c).shrinks first)

theorem settles_classContent (enough : text.length < fuel) :
    Settles (classContent? verbose fuel pending items text) fun behind =>
      classContent? verbose (fuel + (behind.length + 1)) pending items (text ++ ')' :: behind) := by
  induction fuel generalizing pending items text with
  | zero => cases enough
  | succ fuel induction =>
      refine .ofSkip classContent?_skip (fun _ => classContent?_skip) (fun rest bare short => ?_)
        (fun _ => by rw [classContent?_nil, classContent?_nil]) fun _ _ _ _ => shrinks_classContent
      simp only [Nat.add_right_comm fuel 1]
      cases rest with
      | nil =>
          refine .overruns classContent?_nil fun behind found rest success => ?_
          have plain : operation? (')' :: behind) = none := operation?_append [] behind
          rw [List.nil_append, classContent?_other (by decide) (by decide) (skip_closing _ _),
            plain] at success
          obtain ⟨item, first, success⟩ := Option.bind_eq_some_iff.mp success
          exact List.IsSuffix.trans (shrinks_classContent success)
            ((delimited_rangeFrom ')').shrinks first)
      | cons c rest =>
          have short := short.length_le
          simp only [List.length_cons] at short
          by_cases close : c = ']'
          · subst close
            simp only [List.cons_append, classContent?_close]
            exact .gives _ rest
          by_cases opens : c = '['
          · subst opens
            simp only [List.cons_append, classContent?_open, named?_append]
            cases named : named? rest with
            | some result =>
                obtain ⟨item, behind⟩ := result
                have shorter := (shrinks_named named).length_le
                exact induction (by omega)
            | none =>
                simp only [Option.map_none]
                refine (delimited_opening.settles rest).bind (fun opened last isOpen => ?_)
                  (fun _ opened => ?_) fun _ opened text found rest success => ?_
                · have shorter := (delimited_opening.shrinks isOpen).length_le
                  have fits : last.length < fuel := by omega
                  refine (induction fits).bind (fun content final isContent => ?_)
                    (fun _ _ => by rw [classContent?_nil, classContent?_nil])
                    fun _ _ _ _ _ => shrinks_classContent
                  exact induction
                    (Nat.lt_of_le_of_lt (shrinks_classContent isContent).length_le fits)
                · simp only [classContent?_nil]
                  rfl
                · obtain ⟨content, first, success⟩ := Option.bind_eq_some_iff.mp success
                  exact List.IsSuffix.trans (shrinks_classContent success)
                    (shrinks_classContent first)
          · have applies (other : List Char) := operation?_append (c :: rest) other
            simp only [List.cons_append] at applies
            simp only [List.cons_append, classContent?_other close opens (skip_cons bare _),
              applies]
            cases operation : operation? (c :: rest) with
            | some result =>
                obtain ⟨kind, behind⟩ := result
                obtain ⟨_, _, equal⟩ := shrinks_operation operation
                cases equal
                simp only [List.length_cons] at short
                exact induction (by omega)
            | none =>
                simp only [Option.map_none]
                refine ((delimited_rangeFrom c).settles rest).bind (fun item last isItem => ?_)
                  (fun _ _ => by rw [classContent?_nil, classContent?_nil])
                  fun _ _ _ _ _ => shrinks_classContent
                have shorter := ((delimited_rangeFrom c).shrinks isItem).length_le
                exact induction (Nat.lt_of_le_of_lt shorter (by omega))

end Content

theorem delimited_class : Delimited (class? verbose) := by
  have content (first : Bool × List ClassSyntax) : Delimited fun text =>
      (classContent? verbose (text.length + 1) none first.2 text).bind fun content =>
        some (ClassSyntax.bracket first.1 content.1, content.2) := by
    refine Delimited.bind ⟨shrinks_classContent, fun text => ?_⟩ fun content => ?_
    case refine_2 => exact .gives (ClassSyntax.bracket first.1 content)
    simpa [Nat.add_right_comm, Nat.add_assoc] using
      settles_classContent (Nat.lt_succ_self text.length)
  change Delimited fun text => (opening verbose text).bind fun opened =>
    (classContent? verbose (opened.2.length + 1) none opened.1.2 opened.2).bind fun content =>
      some (ClassSyntax.bracket opened.1.1 content.1, content.2)
  exact delimited_opening.bind content

end Assessment.PatternText
