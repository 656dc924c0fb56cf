import Assessment.Pattern.Simplification
import Mathlib.Logic.Function.Iterate

/-!
# What patterns match

`Pattern.Spans` says which stretches of a text a pattern matches, constructor by
constructor.  Matching keeps whole sets of positions instead, cuts repetitions short once
nothing new is found, and bounds the number of their rounds.  `mem_advance_iff` shows that
it finds exactly the ends of those stretches: the positions that a round has found before
need no second visit, and copies that match nothing can be dropped from a repetition, so as
many rounds as the text has positions are enough.
-/

namespace Assessment.Pattern

variable {text : Array Char}

/-- Stretches one behind the other, `count` of them, each in a given relation. -/
def Copies (stretch : Nat → Nat → Prop) : Nat → Nat → Nat → Prop
  | 0, first, last => first = last
  | count + 1, first, last => ∃ middle, stretch first middle ∧ Copies stretch count middle last

mutual

/-- Whether a pattern matches the stretch of a text between two positions. -/
def Spans (text : Array Char) : Pattern → Nat → Nat → Prop
  | .empty, first, last => last = first
  | .literal written, first, last => standsAt text written first ∧ last = first + written.length
  | .one set _, first, last => text[first]?.any set.contains ∧ last = first + 1
  | .anchor condition, first, last => condition.holds text first ∧ last = first
  | .group _ body, first, last => Spans text body first last
  | .repetition body least most _, first, last =>
      ∃ count, least ≤ count ∧ (∀ limit ∈ most, count ≤ max least limit) ∧
        Copies (Spans text body) count first last
  | .sequence parts, first, last => SpansAll text parts first last
  | .choice branches, first, last => SpansAny text branches first last

/-- Whether parts match a stretch one behind the other. -/
def SpansAll (text : Array Char) : List Pattern → Nat → Nat → Prop
  | [], first, last => last = first
  | part :: parts, first, last =>
      ∃ middle, Spans text part first middle ∧ SpansAll text parts middle last

/-- Whether one of the branches matches a stretch. -/
def SpansAny (text : Array Char) : List Pattern → Nat → Nat → Prop
  | [], _, _ => False
  | branch :: branches, first, last =>
      Spans text branch first last ∨ SpansAny text branches first last

end

/-! ## Sets of positions -/

theorem mem_insertPosition {position other : Nat} {positions : List Nat} :
    other ∈ insertPosition position positions ↔ other = position ∨ other ∈ positions := by
  induction positions with
  | nil => simp [insertPosition]
  | cons head rest induction =>
      simp only [insertPosition]
      split
      · simp
      · split
        next equal => simp [equal]
        next => simp [induction, or_left_comm]

theorem mem_unite {a b : List Nat} {position : Nat} :
    position ∈ unite a b ↔ position ∈ a ∨ position ∈ b := by
  induction b with
  | nil => simp [unite]
  | cons head rest induction =>
      have unfolded : unite a (head :: rest) = insertPosition head (unite a rest) := rfl
      rw [unfolded, mem_insertPosition, induction, List.mem_cons, or_left_comm]

/-! ## Copies -/

section Copies

variable {stretch : Nat → Nat → Prop} {first middle last count further : Nat}

theorem copies_one : Copies stretch 1 first last ↔ stretch first last := by
  simp [Copies]

theorem copies_add :
    Copies stretch (count + further) first last ↔
      ∃ middle, Copies stretch count first middle ∧ Copies stretch further middle last := by
  induction count generalizing first with
  | zero => simp [Copies]
  | succ count induction =>
      rw [Nat.add_right_comm]
      simp only [Copies, induction]
      constructor
      · rintro ⟨next, here, end', there, behind⟩
        exact ⟨end', ⟨next, here, there⟩, behind⟩
      · rintro ⟨end', ⟨next, here, there⟩, behind⟩
        exact ⟨next, here, end', there, behind⟩

/-- Stretches within a text: none goes backwards, and none that is not empty ends behind the
text. -/
def Within (size : Nat) (stretch : Nat → Nat → Prop) : Prop :=
  ∀ first last, stretch first last → first ≤ last ∧ (last = first ∨ last ≤ size)

theorem Within.copies {size : Nat} (within : Within size stretch) :
    Within size (Copies stretch count) := by
  induction count with
  | zero =>
      rintro first last rfl
      exact ⟨Nat.le_refl _, .inl rfl⟩
  | succ count induction =>
      rintro first last ⟨middle, here, behind⟩
      have one := within first middle here
      have others := induction middle last behind
      omega

/-- Copies that match nothing can be dropped, so a stretch needs no more copies than it has
characters. -/
theorem Within.exists_few_copies {size : Nat} (within : Within size stretch)
    (copies : Copies stretch count first last) :
    ∃ fewer ≤ count, fewer ≤ last - first ∧ Copies stretch fewer first last := by
  induction count generalizing first with
  | zero => exact ⟨0, Nat.le_refl _, Nat.zero_le _, copies⟩
  | succ count induction =>
      obtain ⟨middle, here, behind⟩ := copies
      obtain ⟨fewer, atMost, short, rest⟩ := induction behind
      have forward := (within first middle here).1
      have onward := (within.copies middle last behind).1
      rcases Nat.eq_or_lt_of_le forward with rfl | longer
      · exact ⟨fewer, by omega, by omega, rest⟩
      · exact ⟨fewer + 1, by omega, by omega, middle, here, rest⟩

/-! ## Rounds of a step -/

variable {step : List Nat → List Nat}

/-- A step on sets of positions that goes along stretches. -/
def Follows (step : List Nat → List Nat) (stretch : Nat → Nat → Prop) : Prop :=
  ∀ starts last, last ∈ step starts ↔ ∃ first ∈ starts, stretch first last

theorem iterate_eq (count : Nat) (starts : List Nat) :
    iterate step count starts = step^[count] starts := by
  induction count generalizing starts with
  | zero => rfl
  | succ count induction =>
      simp only [iterate, Function.iterate_succ_apply]
      split
      next unchanged =>
        rw [beq_iff_eq] at unchanged
        rw [unchanged, Function.iterate_fixed unchanged]
      next => exact induction _

theorem Follows.iterate (follows : Follows step stretch) :
    Follows (Pattern.iterate step count) (Copies stretch count) := by
  intro starts last
  rw [iterate_eq]
  induction count generalizing starts with
  | zero => simp [Copies]
  | succ count induction =>
      rw [Function.iterate_succ_apply, induction]
      constructor
      · rintro ⟨middle, reached, behind⟩
        obtain ⟨first, member, here⟩ := (follows _ _).mp reached
        exact ⟨first, member, middle, here, behind⟩
      · rintro ⟨first, member, middle, here, behind⟩
        exact ⟨middle, (follows _ _).mpr ⟨first, member, here⟩, behind⟩

/-- All positions that were seen but are not in the frontier have been left already. -/
def Explored (stretch : Nat → Nat → Prop) (seen frontier : List Nat) : Prop :=
  frontier ⊆ seen ∧
    ∀ first ∈ seen, first ∉ frontier → ∀ last, stretch first last → last ∈ seen

/-- Who leaves the explored positions passes the frontier. -/
theorem Explored.passes {seen frontier : List Nat} (explored : Explored stretch seen frontier)
    (member : first ∈ seen) (copies : Copies stretch count first last) :
    last ∈ seen ∨ ∃ fewer ≤ count, ∃ start ∈ frontier, Copies stretch fewer start last := by
  induction count generalizing first with
  | zero => exact .inl (copies ▸ member)
  | succ count induction =>
      by_cases ahead : first ∈ frontier
      · exact .inr ⟨count + 1, Nat.le_refl _, first, ahead, copies⟩
      · obtain ⟨middle, here, behind⟩ := copies
        refine (induction (explored.2 first member ahead middle here) behind).imp_right ?_
        rintro ⟨fewer, atMost, found⟩
        exact ⟨fewer, by omega, found⟩

theorem Follows.mem_reach_iff (follows : Follows step stretch) {rounds : Nat}
    {seen frontier : List Nat} (explored : Explored stretch seen frontier) :
    last ∈ reach step rounds seen frontier ↔
      last ∈ seen ∨ ∃ count ≤ rounds, ∃ first ∈ frontier, Copies stretch count first last := by
  induction rounds generalizing seen frontier with
  | zero =>
      refine ⟨.inl, fun found => found.elim id ?_⟩
      rintro ⟨count, none, first, member, copies⟩
      obtain rfl := Nat.le_zero.mp none
      exact explored.1 (copies ▸ member)
  | succ rounds induction =>
      simp only [reach]
      generalize isFresh : ((step frontier).filter fun position => !seen.contains position) = fresh
      have mem_fresh {position : Nat} :
          position ∈ fresh ↔ (∃ first ∈ frontier, stretch first position) ∧ position ∉ seen := by
        simp [← isFresh, follows frontier position]
      -- a step from a seen position leads to a seen or to a fresh one
      have left {start next : Nat} (member : start ∈ seen) (here : stretch start next) :
          next ∈ seen ∨ next ∈ fresh := by
        by_cases known : next ∈ seen
        · exact .inl known
        · by_cases ahead : start ∈ frontier
          · exact .inr (mem_fresh.mpr ⟨⟨start, ahead, here⟩, known⟩)
          · exact .inl (explored.2 start member ahead next here)
      split
      next none =>
        rw [List.isEmpty_iff] at none
        have closed : Explored stretch seen [] :=
          ⟨List.nil_subset _, fun start member _ next here =>
            (left member here).resolve_right (by simp [none])⟩
        refine ⟨.inl, fun found => found.elim id ?_⟩
        rintro ⟨count, _, first, member, copies⟩
        exact (closed.passes (explored.1 member) copies).resolve_right (by simp)
      next =>
        have grown : Explored stretch (unite seen fresh) fresh := by
          refine ⟨fun _ member => mem_unite.mpr (.inr member), ?_⟩
          intro start member old next here
          exact mem_unite.mpr (left ((mem_unite.mp member).resolve_right old) here)
        rw [induction grown]
        constructor
        · rintro (found | ⟨count, atMost, start, member, copies⟩)
          · refine (mem_unite.mp found).imp_right fun isFresh => ?_
            obtain ⟨⟨first, ahead, here⟩, _⟩ := mem_fresh.mp isFresh
            exact ⟨1, by omega, first, ahead, copies_one.mpr here⟩
          · obtain ⟨⟨first, ahead, here⟩, _⟩ := mem_fresh.mp member
            exact .inr ⟨count + 1, by omega, first, ahead, start, here, copies⟩
        · rintro (found | ⟨count, atMost, first, member, copies⟩)
          · exact .inl (mem_unite.mpr (.inl found))
          · cases count with
            | zero => exact .inl (mem_unite.mpr (.inl (copies ▸ explored.1 member)))
            | succ count =>
                obtain ⟨middle, here, behind⟩ := copies
                have reached := mem_unite.mpr (left (explored.1 member) here)
                refine (grown.passes reached behind).imp_right ?_
                rintro ⟨fewer, few, found⟩
                exact ⟨fewer, by omega, found⟩

end Copies

/-! ## Matching -/

theorem mem_behindLiteral {written : List Char} {starts : List Nat} {last : Nat} :
    last ∈ behindLiteral text written starts ↔
      ∃ first ∈ starts, standsAt text written first ∧ last = first + written.length := by
  simp only [behindLiteral, List.mem_map, List.mem_filter, and_assoc, eq_comm (a := last)]

theorem mem_behindOne {set : CharacterSet} {starts : List Nat} {last : Nat} :
    last ∈ behindOne text set starts ↔
      ∃ first ∈ starts, text[first]?.any set.contains ∧ last = first + 1 := by
  simp only [behindOne, List.mem_map, List.mem_filter, and_assoc, eq_comm (a := last)]

theorem add_length_le_of_standsAt {written : List Char} {position : Nat}
    (stands : standsAt text written position) :
    written = [] ∨ position + written.length ≤ text.size := by
  induction written generalizing position with
  | nil => exact .inl rfl
  | cons c rest induction =>
      simp only [standsAt, Bool.and_eq_true, beq_iff_eq] at stands
      obtain ⟨inside, _⟩ := Array.getElem?_eq_some_iff.mp stands.1
      have behind := induction stands.2
      refine .inr ?_
      rcases behind with rfl | fits
      · exact inside
      · simp only [List.length_cons]
        omega

mutual

theorem within_spans (pattern : Pattern) : Within text.size (Spans text pattern) := by
  intro first last spans
  cases pattern with
  | empty => exact ⟨Nat.le_of_eq spans.symm, .inl spans⟩
  | literal written =>
      obtain ⟨stands, rfl⟩ := spans
      refine ⟨Nat.le_add_right .., (add_length_le_of_standsAt stands).imp ?_ id⟩
      rintro rfl
      rfl
  | one set unicode =>
      obtain ⟨found, rfl⟩ := spans
      obtain ⟨c, isThere, _⟩ := (Option.any_eq_true ..).mp found
      obtain ⟨inside, _⟩ := Array.getElem?_eq_some_iff.mp isThere
      exact ⟨Nat.le_succ _, .inr inside⟩
  | anchor condition => exact ⟨Nat.le_of_eq spans.2.symm, .inl spans.2⟩
  | group index body => exact within_spans body first last spans
  | repetition body least most greedy =>
      obtain ⟨count, _, _, copies⟩ := spans
      exact (within_spans body).copies first last copies
  | sequence parts => exact within_spansAll parts first last spans
  | choice branches => exact within_spansAny branches first last spans

theorem within_spansAll (parts : List Pattern) : Within text.size (SpansAll text parts) := by
  intro first last spans
  cases parts with
  | nil => exact ⟨Nat.le_of_eq spans.symm, .inl spans⟩
  | cons part parts =>
      obtain ⟨middle, here, behind⟩ := spans
      have one := within_spans part first middle here
      have others := within_spansAll parts middle last behind
      omega

theorem within_spansAny (branches : List Pattern) : Within text.size (SpansAny text branches) := by
  intro first last spans
  cases branches with
  | nil => exact spans.elim
  | cons branch branches =>
      rcases spans with here | others
      · exact within_spans branch first last here
      · exact within_spansAny branches first last others

end

/-- As many rounds as a text has positions find all stretches of a repetition. -/
theorem exists_copies_iff {stretch : Nat → Nat → Prop} (within : Within text.size stretch)
    (most : Option Nat) (least : Nat) {first last : Nat} :
    (∃ middle, Copies stretch least first middle ∧
      ∃ count ≤ (match most with | some most => most - least | none => text.size + 1),
        Copies stretch count middle last) ↔
      ∃ count, least ≤ count ∧ (∀ limit ∈ most, count ≤ max least limit) ∧
        Copies stretch count first last := by
  constructor
  · rintro ⟨middle, required, count, few, further⟩
    refine ⟨least + count, Nat.le_add_right .., ?_, copies_add.mpr ⟨middle, required, further⟩⟩
    rintro limit ⟨⟩
    simp only at few
    omega
  · rintro ⟨count, enough, few, copies⟩
    obtain ⟨extra, rfl⟩ := Nat.exists_eq_add_of_le enough
    obtain ⟨middle, required, further⟩ := copies_add.mp copies
    refine ⟨middle, required, ?_⟩
    cases most with
    | some limit =>
        have atMost := few limit rfl
        exact ⟨extra, by simp only; omega, further⟩
    | none =>
        obtain ⟨fewer, _, short, rest⟩ := within.exists_few_copies further
        have inside := within.copies middle last further
        exact ⟨fewer, by simp only; omega, rest⟩

mutual

/-- Matching finds the ends of all stretches that begin at one of the given positions. -/
theorem mem_advance_iff (pattern : Pattern) :
    Follows (advance text pattern) (Spans text pattern) := by
  intro starts last
  cases pattern with
  | empty => simp [advance, Spans]
  | literal written => exact mem_behindLiteral
  | one set unicode => exact mem_behindOne
  | anchor condition =>
      simp only [advance, Spans, List.mem_filter]
      constructor
      · rintro ⟨member, holds⟩
        exact ⟨last, member, holds, rfl⟩
      · rintro ⟨first, member, holds, rfl⟩
        exact ⟨member, holds⟩
  | group index body => exact mem_advance_iff body starts last
  | repetition body least most greedy =>
      have follows := mem_advance_iff body
      simp only [advance, Spans]
      have fresh (starts : List Nat) : Explored (Spans text body) starts starts :=
        ⟨List.Subset.refl _, fun _ member new => absurd member new⟩
      rw [follows.mem_reach_iff (fresh _)]
      simp only [follows.iterate starts, ← exists_copies_iff (within_spans body) most least]
      constructor
      · rintro (⟨first, member, required⟩ |
          ⟨count, few, middle, ⟨first, member, required⟩, further⟩)
        · exact ⟨first, member, last, required, 0, Nat.zero_le _, rfl⟩
        · exact ⟨first, member, middle, required, count, few, further⟩
      · rintro ⟨first, member, middle, required, count, few, further⟩
        exact .inr ⟨count, few, middle, ⟨first, member, required⟩, further⟩
  | sequence parts => exact mem_advanceAll_iff parts starts last
  | choice branches => exact mem_advanceAny_iff branches starts last

theorem mem_advanceAll_iff (parts : List Pattern) :
    Follows (advanceAll text parts) (SpansAll text parts) := by
  intro starts last
  cases parts with
  | nil => simp [advanceAll, SpansAll]
  | cons part parts =>
      simp only [advanceAll, SpansAll]
      rw [mem_advanceAll_iff parts]
      constructor
      · rintro ⟨middle, reached, behind⟩
        obtain ⟨first, member, here⟩ := (mem_advance_iff part _ _).mp reached
        exact ⟨first, member, middle, here, behind⟩
      · rintro ⟨first, member, middle, here, behind⟩
        exact ⟨middle, (mem_advance_iff part _ _).mpr ⟨first, member, here⟩, behind⟩

theorem mem_advanceAny_iff (branches : List Pattern) :
    Follows (advanceAny text branches) (SpansAny text branches) := by
  intro starts last
  cases branches with
  | nil => simp [advanceAny, SpansAny]
  | cons branch branches =>
      simp only [advanceAny, SpansAny, mem_unite]
      rw [mem_advance_iff branch, mem_advanceAny_iff branches]
      constructor
      · rintro (⟨first, member, here⟩ | ⟨first, member, other⟩)
        · exact ⟨first, member, .inl here⟩
        · exact ⟨first, member, .inr other⟩
      · rintro ⟨first, member, here | other⟩
        · exact .inl ⟨first, member, here⟩
        · exact .inr ⟨first, member, other⟩

end

/-- A pattern occurs in a text if it matches one of its stretches. -/
theorem occursIn_iff {pattern : Pattern} {text : List Char} :
    pattern.occursIn text ↔
      ∃ first ≤ text.length, ∃ last, Spans text.toArray pattern first last := by
  have found : pattern.occursIn text ↔
      ∃ last, last ∈ advance text.toArray pattern (List.range (text.toArray.size + 1)) := by
    simp only [occursIn, Bool.not_eq_true', List.isEmpty_eq_false_iff_exists_mem]
  rw [found]
  simp only [mem_advance_iff pattern _ _, List.mem_range, List.size_toArray, Nat.lt_succ_iff]
  constructor
  · rintro ⟨last, first, inside, spans⟩
    exact ⟨first, inside, last, spans⟩
  · rintro ⟨first, inside, last, spans⟩
    exact ⟨last, first, inside, spans⟩

/-- Joined parts match the stretches that they match one behind the other. -/
theorem spans_joined {parts : List Pattern} {first last : Nat} :
    Spans text (joined parts) first last ↔ SpansAll text parts first last := by
  have one (stretch : Nat → Nat → Prop) :
      stretch first last ↔ ∃ start ∈ [first], stretch start last := by simp
  rw [one (Spans text _), one (SpansAll text _), ← mem_advance_iff, ← mem_advanceAll_iff,
    advance_joined]

/-- Whether a pattern matches a text from its start to its end. -/
def MatchesWhole (pattern : Pattern) (text : List Char) : Prop :=
  Spans text.toArray pattern 0 text.length

/-- A pattern between anchors at both ends of the text. -/
def between (pattern : Pattern) : Pattern :=
  joined [.anchor .textStart, pattern, .anchor .textEnd]

theorem holds_textStart_iff {position : Nat} :
    Anchor.textStart.holds text position ↔ position = 0 ∨ text.size < position := by
  cases position with
  | zero => simp [Anchor.holds, Anchor.before?]
  | succ position =>
      have outside : text[position]? = none ↔ text.size < position + 1 := by
        rw [Array.getElem?_eq_none_iff, Nat.lt_succ_iff]
      rw [← outside, Anchor.holds, Option.isNone_iff_eq_none, Anchor.before?,
        if_neg (Nat.succ_ne_zero position)]
      exact (or_iff_right (Nat.succ_ne_zero position)).symm

theorem holds_textEnd_iff {position : Nat} :
    Anchor.textEnd.holds text position ↔ text.size ≤ position := by
  simp [Anchor.holds]

/-- Between its anchors a pattern occurs in a text just if it matches the whole text. -/
theorem occursIn_between {pattern : Pattern} {text : List Char} :
    pattern.between.occursIn text ↔ pattern.MatchesWhole text := by
  rw [occursIn_iff]
  simp only [between, spans_joined, SpansAll, Spans, MatchesWhole, holds_textStart_iff,
    holds_textEnd_iff, List.size_toArray]
  constructor
  · rintro ⟨_, inside, last, first, ⟨atStart, rfl⟩, _, spans, _, ⟨atEnd, rfl⟩, rfl⟩
    obtain rfl : first = 0 := by omega
    have inText := within_spans pattern 0 last spans
    rw [List.size_toArray] at inText
    obtain rfl : last = text.length := by omega
    exact spans
  · intro spans
    exact ⟨0, Nat.zero_le _, text.length, 0, ⟨.inl rfl, rfl⟩, text.length, spans, text.length,
      ⟨Nat.le_refl _, rfl⟩, rfl⟩

end Assessment.Pattern
