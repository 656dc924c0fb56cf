import Assessment.Pattern.Reader
import Assessment.Proofs.TokenDelimitation

/-!
# Patterns read within other patterns

`Reads` is the reader of patterns as a relation, one token after the other.  A text that is
read to its end is read the same way with a closing parenthesis behind it, up to that
parenthesis, unless it ends within a comment (`Reads.extend`).  Conversely, what is read up
to a parenthesis could have ended there (`Reads.restrict`).

An open group around a text changes nothing in how the text is read, as long as the text
closes no group that it has not opened (`Reads.within`).  A text that leaves the group
around it has a closing parenthesis that it meets with no group of its own open
(`Reads.exists_unopened`).
-/

namespace Assessment.PatternText

/-- What reading a text from a state on leads to: a later state and the rest of the text,
without the fillers that it begins with. -/
inductive Reads : State → List Char → State → List Char → Prop where
  | stop {state : State} {text rest : List Char} :
      skip state.isVerbose text = rest →
      Reads state text state rest
  | token {state next final : State} {text rest last : List Char} {found : Token} :
      token? state.isVerbose (skip state.isVerbose text) = some (found, rest) →
      state.take found = some next →
      Reads next rest final last →
      Reads state text final last

variable {state next final : State} {text rest last behind : List Char} {found : Token}

/-! ## Runs of the reader -/

theorem run_eq_some_iff {fuel : Nat} (enough : text.length < fuel) :
    run fuel state text = some final ↔ Reads state text final [] := by
  induction fuel generalizing state text with
  | zero => cases enough
  | succ fuel induction =>
      have shorter := (skip_suffix state.isVerbose text).length_le
      simp only [run]
      cases skipped : skip state.isVerbose text with
      | nil =>
          constructor
          · rintro ⟨⟩
            exact .stop skipped
          · rintro (_ | ⟨isToken, _, _⟩)
            · rfl
            · rw [skipped] at isToken
              cases isToken
      | cons c behind =>
          have fits {found : Token} {rest : List Char}
              (isToken : token? state.isVerbose (c :: behind) = some (found, rest)) :
              rest.length < fuel := by
            obtain ⟨_, further, equal, suffix⟩ := shrinks_token isToken
            cases equal
            have atMost := suffix.length_le
            rw [skipped, List.length_cons] at shorter
            omega
          constructor
          · intro success
            obtain ⟨⟨found, rest⟩, isToken, success⟩ := Option.bind_eq_some_iff.mp success
            obtain ⟨next, taken, success⟩ := Option.bind_eq_some_iff.mp success
            exact .token (skipped ▸ isToken) taken ((induction (fits isToken)).mp success)
          · rintro (ended | ⟨isToken, taken, reads⟩)
            · rw [skipped] at ended
              cases ended
            · rw [skipped] at isToken
              simp only [isToken, taken, Option.bind_eq_bind, Option.bind_some]
              exact (induction (fits isToken)).mpr reads

theorem Reads.unique {other : State} (reads : Reads state text final [])
    (again : Reads state text other []) : final = other := by
  have first := (run_eq_some_iff (Nat.lt_succ_self text.length)).mpr reads
  have second := (run_eq_some_iff (Nat.lt_succ_self text.length)).mpr again
  exact Option.some.inj (first.symm.trans second)

theorem Reads.suffix (reads : Reads state text final rest) : rest <:+ text := by
  induction reads with
  | stop equal => exact equal ▸ skip_suffix _ _
  | token isToken _ _ induction =>
      obtain ⟨_, further, equal, suffix⟩ := shrinks_token isToken
      exact (induction.trans (suffix_behind suffix)).trans (equal ▸ skip_suffix _ _)

/-- A token that is known is the one that is read. -/
theorem reads_token_iff
    (isToken : token? state.isVerbose (skip state.isVerbose text) = some (found, rest)) :
    Reads state text final [] ↔
      ∃ next, state.take found = some next ∧ Reads next rest final [] := by
  constructor
  · rintro (ended | ⟨other, taken, reads⟩)
    · rw [ended] at isToken
      cases isToken
    · rw [other] at isToken
      cases isToken
      exact ⟨_, taken, reads⟩
  · rintro ⟨next, taken, reads⟩
    exact .token isToken taken reads

theorem reads_take_iff
    (isToken : token? state.isVerbose (skip state.isVerbose text) = some (found, rest))
    (taken : state.take found = some next) :
    Reads state text final [] ↔ Reads next rest final [] := by
  rw [reads_token_iff isToken, taken]
  simp

theorem reads_skip_iff :
    Reads state (skip state.isVerbose text) final [] ↔ Reads state text final [] := by
  constructor
  · rintro (ended | ⟨isToken, taken, reads⟩)
    · exact .stop (by rw [← ended, skip_skip])
    · exact .token (by rw [← isToken, skip_skip]) taken reads
  · rintro (ended | ⟨isToken, taken, reads⟩)
    · exact .stop (by rw [skip_skip, ended])
    · exact .token (by rw [skip_skip, isToken]) taken reads

/-- Reading goes on where it stopped. -/
theorem Reads.onward_iff {reached : State} (reads : Reads state text reached rest) :
    Reads state text final [] ↔ Reads reached rest final [] := by
  induction reads with
  | stop equal => rw [← equal, reads_skip_iff]
  | token isToken taken _ induction => exact (reads_take_iff isToken taken).trans induction

/-! ## A closing parenthesis behind a text -/

/-- Fillers at the start of a text are the same with a parenthesis behind it, or they end in a
comment that goes on behind the text. -/
theorem skip_cases (verbose : Bool) (text : List Char) :
    (∀ behind, skip verbose (text ++ ')' :: behind) = skip verbose text ++ ')' :: behind) ∨
      skip verbose text = [] ∧
        (∀ behind, '\n' ∉ behind → skip verbose (text ++ ')' :: behind) = []) ∧
        ∀ behind, skip verbose (text ++ ')' :: behind) <:+ behind := by
  cases settles_skip verbose text with
  | stops _ rest alone within =>
      cases alone
      exact .inl fun behind => (Prod.mk.inj (Option.some.inj (within behind))).2
  | overruns alone _ => cases alone
  | ignores same short =>
      have ended : skip verbose text = [] := by
        have suffix := short [] () _ (same [] (by simp))
        exact List.suffix_nil.mp suffix
      refine .inr ⟨ended, fun behind oneLine => ?_, fun behind => short behind () _ rfl⟩
      rw [← ended]
      exact (Prod.mk.inj (Option.some.inj (same behind oneLine))).2

/-- A text that is read to its end is read up to a parenthesis behind it, or it ends within a
comment that the parenthesis belongs to. -/
theorem Reads.extend (reads : Reads state text final []) :
    (∀ behind, Reads state (text ++ ')' :: behind) final (')' :: behind)) ∨
      ∀ behind, '\n' ∉ behind → Reads state (text ++ ')' :: behind) final [] := by
  generalize ends : ([] : List Char) = rest at reads
  induction reads with
  | stop equal =>
      subst ends
      rename_i state text
      rcases skip_cases state.isVerbose text with same | ⟨_, ignored, _⟩
      · exact .inl fun behind => .stop (by rw [same, equal]; rfl)
      · exact .inr fun behind oneLine => .stop (ignored behind oneLine)
  | @token state next final text rest last found isToken taken reads induction =>
      subst ends
      have solid : skip state.isVerbose text ≠ [] := by
        intro nothing
        rw [nothing] at isToken
        cases isToken
      have decided : ¬UndecidedToken state.isVerbose (skip state.isVerbose text) := by
        intro undecided
        rw [(token_of_undecided undecided).1] at isToken
        cases isToken
      cases settles_token decided with
      | stops _ _ alone within =>
          rw [alone] at isToken
          cases isToken
          have goesOn {behind last : List Char}
              (reads : Reads next (rest ++ ')' :: behind) final last) :
              Reads state (text ++ ')' :: behind) final last :=
            .token (by rw [skip_append solid, within]) taken reads
          exact (induction rfl).imp (fun reads behind => goesOn (reads behind))
            fun reads behind oneLine => goesOn (reads behind oneLine)
      | overruns alone _ =>
          rw [alone] at isToken
          cases isToken
      | ignores same short =>
          have nothing : rest = [] :=
            List.suffix_nil.mp (short [] found rest (by rw [same [] (by simp), isToken]))
          subst nothing
          refine .inr fun behind oneLine => .token ?_ taken reads
          rw [skip_append solid, same behind oneLine, isToken]

theorem counted?_skip (verbose : Bool) (text : List Char) :
    counted? verbose (skip verbose text) = counted? verbose text := by
  rw [counted?_eq, counted?_eq, skip_skip]

/-- Nothing but fillers before a closing parenthesis is no counted repetition. -/
theorem suffix_of_counted {verbose : Bool} {filler : List Char} (nothing : skip verbose filler = [])
    (counted : counted? verbose (filler ++ ')' :: behind) = some (found, rest)) :
    rest <:+ behind := by
  rcases skip_cases verbose filler with same | ⟨_, _, short⟩
  · have none : count? verbose (')' :: behind) = none := by
      have letter : Text.isBlank ')' = false := by decide
      have noDigit : isDigit ')' = false := by decide
      simp [count?, letter, digits, noDigit]
    rw [counted?_eq, same, nothing, List.nil_append, none] at counted
    cases counted
  · rw [← counted?_skip] at counted
    exact (delimited_counted.shrinks counted).trans (short behind)

theorem not_suffix_of_suffix {c : Char} (suffix : rest <:+ behind) : ¬c :: behind <:+ rest := by
  intro longer
  have short := suffix.length_le
  have long := longer.length_le
  rw [List.length_cons] at long
  omega

theorem isVerbose_of_primitive {part : Primitive}
    (taken : state.take (.primitive part) = some next) :
    next.isVerbose = state.isVerbose := by
  obtain ⟨pattern, _, rfl⟩ := Option.map_eq_some_iff.mp taken
  rfl

/-- A brace that an undecided escape leaves is never followed up to the parenthesis. -/
theorem not_reads_brace {filler : List Char} (nothing : skip state.isVerbose filler = []) :
    ¬Reads state ('\x7b' :: (filler ++ ')' :: behind)) final (')' :: behind) := by
  have bare (rest : List Char) : skip state.isVerbose ('\x7b' :: rest) = '\x7b' :: rest :=
    skip_of_letter (by decide) (by decide) rest
  rintro (ended | ⟨isToken, _, reads⟩)
  · rw [bare] at ended
    cases (List.cons.inj ended).1
  · rw [bare] at isToken
    exact not_suffix_of_suffix (suffix_of_counted nothing isToken) reads.suffix

/-- A text that is read up to a parenthesis is read to its end by itself, and up to a
parenthesis whatever is behind that. -/
theorem Reads.restrict (reads : Reads state (text ++ ')' :: behind) final (')' :: behind)) :
    Reads state text final [] ∧
      ∀ other, Reads state (text ++ ')' :: other) final (')' :: other) := by
  generalize whole : text ++ ')' :: behind = longer at reads
  generalize ends : ')' :: behind = last at reads
  induction reads generalizing text with
  | @stop state longer last equal =>
      subst whole ends
      rcases skip_cases state.isVerbose text with same | ⟨_, _, short⟩
      · have nothing : skip state.isVerbose text = [] := by
          rw [same] at equal
          simpa using equal
        exact ⟨.stop nothing, fun other => .stop (by rw [same, nothing]; rfl)⟩
      · have late := short behind
        rw [equal] at late
        exact absurd (List.suffix_refl _) (not_suffix_of_suffix late)
  | @token state next final longer rest last found isToken taken reads induction =>
      subst whole ends
      -- the parenthesis is still to come
      have beyond : ¬rest <:+ behind := fun suffix => not_suffix_of_suffix suffix reads.suffix
      rcases skip_cases state.isVerbose text with same | ⟨_, _, short⟩
      · rw [same] at isToken
        by_cases undecided : UndecidedToken state.isVerbose (skip state.isVerbose text)
        · obtain ⟨⟨part, rfl⟩, brace⟩ := (token_of_undecided undecided).2 behind found rest isToken
          obtain ⟨filler, nothing, rfl⟩ := brace.resolve_left beyond
          rw [← isVerbose_of_primitive taken] at nothing
          exact absurd reads (not_reads_brace nothing)
        · cases settles_token undecided with
          | stops _ left alone within =>
              rw [within] at isToken
              cases isToken
              obtain ⟨reads, others⟩ := induction rfl rfl
              exact ⟨.token alone taken reads,
                fun other => .token (by rw [same, within]) taken (others other)⟩
          | overruns _ short => exact absurd (short behind found rest isToken) beyond
          | ignores _ short => exact absurd (short behind found rest isToken) beyond
      · obtain ⟨_, further, equal, suffix⟩ := shrinks_token isToken
        exact absurd ((suffix_behind suffix).trans (equal ▸ short behind)) beyond

/-! ## A group around a text -/

theorem repetition_ne_closeGroup {least : Nat} {most : Option Nat} :
    some (repetition least most text) ≠ some (.closeGroup, rest) := by
  unfold repetition
  split <;> nofun

theorem counted_ne_closeGroup {verbose : Bool} :
    counted? verbose text ≠ some (.closeGroup, rest) := by
  intro counted
  rw [counted?_eq] at counted
  obtain ⟨⟨least, behind⟩, _, counted⟩ := Option.bind_eq_some_iff.mp counted
  split at counted
  · exact repetition_ne_closeGroup counted
  · split at counted
    · exact repetition_ne_closeGroup counted
    · obtain ⟨⟨most, behind⟩, _, counted⟩ := Option.bind_eq_some_iff.mp counted
      dsimp only at counted
      split at counted
      · split at counted
        · exact repetition_ne_closeGroup counted
        · cases counted
      · cases counted
  · cases counted

theorem group_ne_closeGroup {verbose : Bool} : group? verbose text ≠ some (.closeGroup, rest) := by
  intro group
  have named {text : List Char} : namedGroup? text ≠ some (.closeGroup, rest) := by
    intro named
    obtain ⟨_, _, equal⟩ := Option.map_eq_some_iff.mp named
    cases equal
  unfold group? at group
  split at group
  · cases group
  · cases group
  · cases group
  · cases group
  · exact named group
  · exact named group
  · split at group
    · cases group
    · split at group <;> cases group
    · cases group
  · cases group

/-- Only a closing parenthesis closes a group. -/
theorem eq_of_closeGroup {verbose : Bool}
    (isToken : token? verbose text = some (.closeGroup, rest)) : text = ')' :: rest := by
  unfold token? at isToken
  split at isToken
  · cases isToken
  · exact absurd isToken group_ne_closeGroup
  · cases isToken
    rfl
  · cases isToken
  · exact absurd isToken repetition_ne_closeGroup
  · exact absurd isToken repetition_ne_closeGroup
  · exact absurd isToken repetition_ne_closeGroup
  · exact absurd isToken counted_ne_closeGroup
  · obtain ⟨_, _, equal⟩ := Option.map_eq_some_iff.mp isToken
    cases equal
  · obtain ⟨_, _, equal⟩ := Option.map_eq_some_iff.mp isToken
    cases equal
  all_goals cases isToken

/-- The state with a further group around it. -/
def State.within (state : State) (level : Level) : State :=
  { state with outer := state.outer ++ [level] }

/-- A group around changes nothing but for a token that closes it. -/
theorem take_within {level : Level} (inside : ¬(found = .closeGroup ∧ state.outer = [])) :
    (state.within level).take found = (state.take found).map (·.within level) := by
  cases found with
  | primitive part =>
      simp only [State.take, Option.map_map]
      rfl
  | switch changes => rfl
  | bar => rfl
  | repetition least most isLazy =>
      simp only [State.take, State.repeatLast, State.within]
      split
      · split <;> rfl
      · rfl
  | openGroup mark =>
      simp only [State.take, State.within]
      cases mark with
      | remembering name =>
          simp only [State.enter]
          split <;> rfl
      | plain changes => rfl
  | closeGroup =>
      have open' : state.outer ≠ [] := fun nothing => inside ⟨rfl, nothing⟩
      obtain ⟨group, outer, equal⟩ := List.exists_cons_of_ne_nil open'
      simp only [State.take, State.leave, State.within, equal]
      rfl

theorem Reads.within (reads : Reads state text final rest) (level : Level) :
    Reads (state.within level) text (final.within level) rest := by
  induction reads with
  | stop equal => exact .stop equal
  | @token state next final text rest last found isToken taken _ induction =>
      have inside : ¬(found = .closeGroup ∧ state.outer = []) := by
        rintro ⟨rfl, nothing⟩
        simp [State.take, State.leave, nothing] at taken
      exact .token isToken (by rw [take_within inside, taken]; rfl) induction

/-- A text after which the group around it is closed has a closing parenthesis that it meets
with no group of its own open. -/
theorem Reads.exists_unopened {level : Level} (reads : Reads (state.within level) text final [])
    (closed : final.outer = []) :
    ∃ reached behind, Reads state text reached (')' :: behind) ∧ reached.outer = [] ∧
      ∃ left, (reached.within level).leave = some left ∧ Reads left behind final [] := by
  generalize isWithin : state.within level = start at reads
  generalize ends : ([] : List Char) = last at reads
  induction reads generalizing state with
  | stop equal =>
      subst isWithin
      simp [State.within] at closed
  | @token start next final text rest last found isToken taken reads induction =>
      subst isWithin ends
      by_cases closes : found = .closeGroup ∧ state.outer = []
      · obtain ⟨rfl, nothing⟩ := closes
        exact ⟨state, rest, .stop (eq_of_closeGroup isToken), nothing, next, taken, reads⟩
      · rw [take_within closes] at taken
        obtain ⟨inner, takes, equal⟩ := Option.map_eq_some_iff.mp taken
        obtain ⟨reached, behind, goesOn, left⟩ := induction closed equal rfl
        exact ⟨reached, behind, .token isToken takes goesOn, left⟩

/-! ## The part that all groups are in -/

/-- The number of what all open groups are in. -/
def State.base (state : State) : Option Nat :=
  match state.outer.getLast? with
  | some level => level.number
  | none => state.number

theorem base_take (taken : state.take found = some next) : next.base = state.base := by
  cases found with
  | primitive part =>
      obtain ⟨pattern, _, rfl⟩ := Option.map_eq_some_iff.mp taken
      rfl
  | switch changes =>
      cases taken
      rfl
  | bar =>
      cases taken
      rfl
  | repetition least most isLazy =>
      simp only [State.take, State.repeatLast] at taken
      split at taken
      · split at taken
        · cases taken
          rfl
        · cases taken
      · cases taken
  | openGroup mark =>
      have opened : ∃ level : Level, level.number = state.number ∧
          next.outer = level :: state.outer := by
        cases mark with
        | remembering name =>
            simp only [State.take, State.enter] at taken
            split at taken
            · cases taken
            · cases taken
              exact ⟨_, rfl, rfl⟩
        | plain changes =>
            cases taken
            exact ⟨_, rfl, rfl⟩
      obtain ⟨level, number, outer⟩ := opened
      unfold State.base
      rw [outer, List.getLast?_cons]
      cases state.outer.getLast? with
      | none => exact number
      | some _ => rfl
  | closeGroup =>
      simp only [State.take, State.leave] at taken
      split at taken
      next level outer equal =>
        cases taken
        unfold State.base
        rw [equal, List.getLast?_cons]
        dsimp only
        cases outer.getLast? <;> rfl
      · cases taken

theorem Reads.base (reads : Reads state text final rest) : final.base = state.base := by
  induction reads with
  | stop _ => rfl
  | token _ taken _ induction => exact induction.trans (base_take taken)

end Assessment.PatternText
