import Assessment.Proofs.FixedResult
import Assessment.Proofs.History
import Assessment.Proofs.PatternMatch
import Assessment.Proofs.PatternReading

/-!
# Patterns for whole texts

`patternMatch` asks whether a pattern matches a text as a whole.  It reads the pattern's
text between `^(?:` and `)$`, and looks for a match anywhere.  For a text that is a pattern
by itself this gives the pattern between two anchors, which occurs in a text just if the
pattern matches the whole text.

There are two exceptions.  A text that ends within a comment takes the group's closing
parenthesis into the comment.  And a text like `a)|(?:b` is no pattern by itself, for it
closes a group that it has not opened; between `^(?:` and `)$` it closes the group around
it, and nothing holds its alternatives at the ends of the text any longer.
-/

namespace Assessment

open PatternText

namespace Pattern

variable {text : List Char} {part : Part}

/-- The part that a text denotes by itself, be it too large or not. -/
def written? (text : List Char) : Option Part := do
  let state ← run (text.length + 1) State.initial text
  if state.outer.isEmpty then return state.content else none

theorem read?_eq (text : List Char) :
    read? text = (written? text).bind fun part =>
      if part.depth ≤ maximumDepth && part.pattern.hasMachines then some part.pattern
      else none := by
  simp only [read?, written?]
  cases run (text.length + 1) State.initial text with
  | none => rfl
  | some state =>
      simp only [Option.bind_eq_bind, Option.bind_some]
      cases state.outer.isEmpty <;> rfl

theorem written?_eq_some_iff :
    written? text = some part ↔
      ∃ state, Reads State.initial text state [] ∧ state.outer = [] ∧ state.content = part := by
  simp only [written?, ← run_eq_some_iff (Nat.lt_succ_self text.length)]
  cases run (text.length + 1) State.initial text with
  | none => simp
  | some state => simp

theorem isSome_written?_iff :
    (written? text).isSome ↔ ∃ state, Reads State.initial text state [] ∧ state.outer = [] := by
  simp [Option.isSome_iff_exists, written?_eq_some_iff]

/-- A text is no pattern if reading it leaves a group open. -/
theorem written?_eq_none {state : State} (reads : Reads State.initial text state [])
    (isOpen : state.outer ≠ []) : written? text = none := by
  rw [← Option.not_isSome_iff_eq_none, isSome_written?_iff]
  rintro ⟨other, again, closed⟩
  exact isOpen (reads.unique again ▸ closed)

/-- A closing parenthesis cannot be read where no group is open. -/
theorem not_reads_closing {state final : State} {behind : List Char} (closed : state.outer = []) :
    ¬Reads state (')' :: behind) final [] := by
  intro reads
  have isToken : token? state.isVerbose (skip state.isVerbose (')' :: behind)) =
      some (.closeGroup, behind) := by
    rw [skip_closing]
    rfl
  obtain ⟨next, taken, _⟩ := (reads_token_iff isToken).mp reads
  simp [State.take, State.leave, closed] at taken

/-! ## Closing parentheses -/

/-- A closing parenthesis behind the text does not show: the text ends within a comment. -/
def EndsInComment (text : List Char) : Prop :=
  (written? (text ++ [')'])).isSome

instance : Decidable (EndsInComment text) :=
  inferInstanceAs (Decidable (_ = _))

/-- A closing parenthesis in the text closes no group of the text: what is before it is a
pattern, and does not end within a comment. -/
def ClosesUnopened (text : List Char) : Prop :=
  ∃ before behind, text = before ++ ')' :: behind ∧ (written? before).isSome ∧
    ¬EndsInComment before

/-- Where reading stops at a parenthesis with no group open, it cannot go on. -/
theorem written?_eq_none_of_closing {state : State} {behind : List Char}
    (reads : Reads State.initial (text ++ ')' :: behind) state (')' :: behind))
    (closed : state.outer = []) : written? (text ++ ')' :: behind) = none := by
  rw [← Option.not_isSome_iff_eq_none, isSome_written?_iff]
  rintro ⟨final, whole, _⟩
  exact not_reads_closing closed (reads.onward_iff.mp whole)

theorem not_endsInComment {state : State}
    (reads : Reads State.initial (text ++ [')']) state [')']) (closed : state.outer = []) :
    ¬EndsInComment text := by
  simp [EndsInComment, written?_eq_none_of_closing reads closed]

/-- Behind a pattern a closing parenthesis is where reading stops, or it belongs to a comment. -/
theorem reads_closing {state : State} (reads : Reads State.initial text state [])
    (closed : state.outer = []) :
    if EndsInComment text then
      ∀ behind, '\n' ∉ behind → Reads State.initial (text ++ ')' :: behind) state []
    else ∀ behind, Reads State.initial (text ++ ')' :: behind) state (')' :: behind) := by
  rcases reads.extend with stops | ignored
  · rwa [if_neg (not_endsInComment (stops []) closed)]
  · have ends : EndsInComment text :=
      isSome_written?_iff.mpr ⟨state, ignored [] (by simp), closed⟩
    rwa [if_pos ends]

/-- A text that closes a group it has not opened is no pattern by itself. -/
theorem ClosesUnopened.written?_eq_none (closes : ClosesUnopened text) : written? text = none := by
  obtain ⟨before, behind, rfl, isPattern, solid⟩ := closes
  obtain ⟨state, reads, closed⟩ := isSome_written?_iff.mp isPattern
  have stops := reads_closing reads closed
  rw [if_neg solid] at stops
  exact written?_eq_none_of_closing (stops behind) closed

/-! ## Between the anchors -/

/-- The state behind the anchor, around the group. -/
def beforeGroup : Level :=
  ⟨Modes.initial, [], [⟨.anchor .textStart, 0, true⟩], none⟩

theorem reads_anchored {final : State} :
    Reads State.initial (anchored text) final [] ↔
      Reads (State.initial.within beforeGroup) (text ++ [')', '$']) final [] := by
  have anchor : State.initial.take (.primitive .lineStart) =
      some (State.initial.push ⟨.anchor .textStart, 0, true⟩) := rfl
  have group : (State.initial.push ⟨.anchor .textStart, 0, true⟩).take (.openGroup (.plain [])) =
      some (State.initial.within beforeGroup) := rfl
  have first : token? State.initial.isVerbose (skip State.initial.isVerbose (anchored text)) =
      some (.primitive .lineStart, '(' :: '?' :: ':' :: (text ++ [')', '$'])) := rfl
  rw [reads_take_iff first anchor, reads_take_iff rfl group]

/-- What is left to read behind the text: the end of the group, and the anchor. -/
theorem reads_behind {reached : State} (closed : reached.outer = [])
    (number : reached.number = none) :
    ∃ final, Reads (reached.within beforeGroup) [')', '$'] final [] ∧ final.outer = [] ∧
      final.content = ⟨reached.content.pattern.between, reached.content.depth + 2, true⟩ := by
  let group : Part := ⟨reached.content.pattern, reached.content.depth + 1, true⟩
  let left : State :=
    { reached with
      modes := Modes.initial, alternatives := [], parts := [group, ⟨.anchor .textStart, 0, true⟩],
      outer := [] }
  have leaves : (reached.within beforeGroup).take .closeGroup = some left := by
    simp only [State.take, State.leave, State.within, closed, List.nil_append, beforeGroup, number,
      left, group]
    rfl
  have isClosing : token? (reached.within beforeGroup).isVerbose
      (skip (reached.within beforeGroup).isVerbose [')', '$']) = some (.closeGroup, ['$']) := by
    rw [skip_closing]
    rfl
  have ends : left.take (.primitive .lineEnd) =
      some (left.push ⟨.anchor .textEnd, 0, true⟩) := rfl
  refine ⟨left.push ⟨.anchor .textEnd, 0, true⟩, ?_, rfl, ?_⟩
  · rw [reads_take_iff isClosing leaves]
    exact .token rfl ends (.stop rfl)
  · simp [State.content, State.push, Part.join, left, group, between]

theorem written?_anchored (written : written? text = some part) (solid : ¬EndsInComment text) :
    written? (anchored text) = some ⟨part.pattern.between, part.depth + 2, true⟩ := by
  obtain ⟨state, reads, closed, rfl⟩ := written?_eq_some_iff.mp written
  have stops := reads_closing reads closed
  rw [if_neg solid] at stops
  have number : state.number = none := by
    have same : state.base = none := reads.base
    simpa [State.base, closed] using same
  obtain ⟨final, behind, ended, content⟩ := reads_behind closed number
  have inGroup := (stops ['$']).within beforeGroup
  exact written?_eq_some_iff.mpr
    ⟨final, reads_anchored.mpr (inGroup.onward_iff.mpr behind), ended, content⟩

/-- A comment at the end of the text takes the end of the group into it. -/
theorem written?_anchored_of_endsInComment (written : written? text = some part)
    (ends : EndsInComment text) : written? (anchored text) = none := by
  obtain ⟨state, reads, closed, _⟩ := written?_eq_some_iff.mp written
  have ignored := reads_closing reads closed
  rw [if_pos ends] at ignored
  have inGroup := (ignored ['$'] (by decide)).within beforeGroup
  exact written?_eq_none (reads_anchored.mpr inGroup) (by simp [State.within])

/-- What stops at a closing parenthesis of the text between the anchors has read a pattern. -/
theorem written?_isSome_of_reads {state : State} {behind : List Char}
    (reads : Reads State.initial (text ++ ')' :: behind) state (')' :: behind))
    (closed : state.outer = []) : (written? text).isSome ∧ ¬EndsInComment text := by
  obtain ⟨alone, stops⟩ := reads.restrict
  exact ⟨isSome_written?_iff.mpr ⟨state, alone, closed⟩, not_endsInComment (stops []) closed⟩

/-- No other text becomes a pattern between the anchors. -/
theorem closesUnopened_of_anchored (nothing : written? text = none)
    (isPattern : (written? (anchored text)).isSome) : ClosesUnopened text := by
  obtain ⟨final, reads, closed⟩ := isSome_written?_iff.mp isPattern
  obtain ⟨reached, behind, stops, unopened, _⟩ :=
    Reads.exists_unopened (reads_anchored.mp reads) closed
  obtain ⟨before, whole⟩ := stops.suffix
  rw [← whole] at stops
  obtain ⟨readable, solid⟩ := written?_isSome_of_reads stops unopened
  -- the parenthesis that closes the group stands within the text, or is the one behind it
  rcases List.append_eq_append_iff.mp whole with ⟨between, rfl, equal⟩ | ⟨between, rfl, equal⟩
  · cases between with
    | nil =>
        rw [List.append_nil] at nothing
        simp [nothing] at readable
    | cons c rest =>
        obtain ⟨rfl, _⟩ := List.cons.inj equal
        exact ⟨before, rest, rfl, readable, solid⟩
  · cases between with
    | nil => simp [nothing] at readable
    | cons c rest => simp [List.cons_eq_append_iff] at equal

/-! ## Whole texts -/

/-- Between the anchors the part is not too large. -/
def FitsBetween (part : Part) : Prop :=
  part.depth + 2 ≤ maximumDepth ∧ part.pattern.between.hasMachines

theorem whole?_of_written (written : written? text = some part) (solid : ¬EndsInComment text)
    (fits : FitsBetween part) : whole? text = some part.pattern.between := by
  simp [whole?, read?_eq, written?_anchored written solid, fits.1, fits.2]

theorem whole?_eq_none_of_written (written : written? text = some part)
    (unfit : EndsInComment text ∨ ¬FitsBetween part) : whole? text = none := by
  rw [whole?, read?_eq]
  by_cases ends : EndsInComment text
  · rw [written?_anchored_of_endsInComment written ends]
    rfl
  · have large := unfit.resolve_left ends
    rw [written?_anchored written ends]
    simpa [FitsBetween] using large

theorem whole?_eq_none_of_not_written (nothing : written? text = none)
    (opened : ¬ClosesUnopened text) : whole? text = none := by
  have none : written? (anchored text) = none := by
    rw [← Option.not_isSome_iff_eq_none]
    exact fun isPattern => opened (closesUnopened_of_anchored nothing isPattern)
  rw [whole?, read?_eq, none]
  rfl

end Pattern

namespace Evaluator

open Pattern

variable {context : Context} {written : Attribute String} {pattern text : String}

theorem run_patternMatch (evaluator : Evaluator)
    (resolved : written.resolveString "patternMatch" "pattern" context.store = .ok pattern)
    (solid : text ≠ "") :
    ((applyOperator context (.patternMatch written) [.single (.string text)]).run.run
        evaluator).1 =
      (Operator.patternMatch written).matchPattern pattern text := by
  have admits : (Operator.patternMatch written).signature.Admits [.single (.string text)] := by
    refine Signature.admits_exactly rfl ?_
    simp [Accepts.Admits, Value.cardinality?, Value.baseType?, Scalar.baseType]
  have gives := Operator.apply_gives context (by simp) admits (by simp [Value.isNull, solid])
  have computed : (Operator.patternMatch written).compute context.store
      context.settings.maxContainerSize [.single (.string text)] =
        (Operator.patternMatch written).matchPattern pattern text := by
    change (written.resolveString "patternMatch" "pattern" context.store).bind _ = _
    rw [resolved]
    rfl
  obtain ⟨same, _⟩ :=
    applyOperator_realizes context (.patternMatch written) [.single (.string text)] evaluator
  rw [same, gives, computed]

/-- `patternMatch` tells whether the pattern matches the whole text.  A pattern that ends within
a comment, or is too large between the anchors, is refused.  A text that is no pattern is refused
too, unless it closes a group that it has not opened: then what it denotes between the anchors is
looked for. -/
theorem patternMatch_anchored (evaluator : Evaluator)
    (resolved : written.resolveString "patternMatch" "pattern" context.store = .ok pattern)
    (solid : text ≠ "") :
    let result := ((applyOperator context (.patternMatch written)
      [.single (.string text)]).run.run evaluator).1
    let refused : Evaluated Value :=
      .error (.invalidAttribute "patternMatch" "pattern" .notPattern)
    (∀ part, written? pattern.toList = some part →
      (¬EndsInComment pattern.toList → FitsBetween part →
        ∃ answer, result = .ok (.boolean answer) ∧
          (answer = true ↔ part.pattern.MatchesWhole text.toList)) ∧
      (EndsInComment pattern.toList ∨ ¬FitsBetween part → result = refused)) ∧
    (written? pattern.toList = none → ¬ClosesUnopened pattern.toList → result = refused) ∧
    (ClosesUnopened pattern.toList →
      written? pattern.toList = none ∧
        result = match whole? pattern.toList with
          | some found => .ok (.boolean (found.occursIn text.toList))
          | none => refused) := by
  intro result refused
  have equal : result = (Operator.patternMatch written).matchPattern pattern text :=
    run_patternMatch evaluator resolved solid
  have isRefused (none : whole? pattern.toList = none) : result = refused := by
    rw [equal, Operator.matchPattern, none]
    rfl
  refine ⟨fun part isPart => ⟨fun plain fits => ?_, fun unfit => ?_⟩,
    fun nothing opened => ?_, fun closes => ⟨closes.written?_eq_none, equal⟩⟩
  · refine ⟨part.pattern.between.occursIn text.toList, ?_, occursIn_between⟩
    rw [equal, Operator.matchPattern, whole?_of_written isPart plain fits]
  · exact isRefused (whole?_eq_none_of_written isPart unfit)
  · exact isRefused (whole?_eq_none_of_not_written nothing opened)

/-- A text that matches as a whole. -/
theorem patternMatch_anchored_of_repetition :
    let context := (Environment.mk .default .standard).over .empty
    let part : Part :=
      ⟨.sequence [.literal ['a'], .repetition (.literal ['b']) 0 none true], 2, true⟩
    (Attribute.literal "ab*").resolveString "patternMatch" "pattern" context.store = .ok "ab*" ∧
      "abb" ≠ "" ∧ written? "ab*".toList = some part ∧ ¬EndsInComment "ab*".toList ∧
      FitsBetween part ∧
      ∃ answer, ((applyOperator context (.patternMatch (.literal "ab*"))
          [.single (.string "abb")]).run.run (ofSource (.ofSeed 1))).1 = .ok (.boolean answer) ∧
        (answer = true ↔ part.pattern.MatchesWhole "abb".toList) := by
  intro context part
  have resolved : (Attribute.literal "ab*").resolveString "patternMatch" "pattern"
      context.store = .ok "ab*" := rfl
  have solid : "abb" ≠ "" := by decide
  have isPart : written? "ab*".toList = some part := rfl
  have plain : ¬EndsInComment "ab*".toList := by decide +kernel
  have fits : FitsBetween part := ⟨by decide, by decide +kernel⟩
  exact ⟨resolved, solid, isPart, plain, fits,
    ((patternMatch_anchored (ofSource (.ofSeed 1)) resolved solid).1 part isPart).1 plain fits⟩

/-- A closing parenthesis that closes nothing, and a pattern that ends within a comment. -/
theorem patternMatch_not_anchored :
    let context := (Environment.mk .default .standard).over .empty
    let matched (pattern text : String) : Evaluated Value :=
      ((applyOperator context (.patternMatch (.literal pattern))
        [.single (.string text)]).run.run (ofSource (.ofSeed 1))).1
    read? "a)|(?:b".toList = none ∧
      (matched "a)|(?:b" "axyz").toOption = some (.boolean true) ∧
      (read? "(?x)a#b".toList).isSome ∧ (matched "(?x)a#b" "a").toOption = none := by
  refine ⟨by rfl, by decide +kernel, by decide +kernel, by decide +kernel⟩

end Evaluator

end Assessment
