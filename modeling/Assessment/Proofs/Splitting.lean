import Assessment.Evaluation
import Mathlib.Data.List.Infix

/-!
# Splitting and joining

Splitting searches for the delimiter from the left and goes on behind each occurrence
that it finds, so occurrences that overlap an earlier one do not count.
`Text.FoundFromLeft` is this search without the splitting.  The pieces are one more than
the occurrences found, they are free of the delimiter, and joining them gives the text
back; the operators `Explode` and `Implode` do nothing else with texts that are not
empty.
-/

namespace Assessment

namespace Text

/-- The delimiter stands at a position of the text. -/
def OccursAt (delimiter text : List Char) (position : Nat) : Prop :=
  delimiter <+: text.drop position

/-- The occurrences of a delimiter that are found from some position on: the first one,
and then those that are found behind it. -/
inductive FoundFromLeft (delimiter text : List Char) : Nat → List Nat → Prop where
  | done {start : Nat} :
      (∀ position, start ≤ position → ¬ OccursAt delimiter text position) →
      FoundFromLeft delimiter text start []
  | found {start position : Nat} {positions : List Nat} :
      start ≤ position → OccursAt delimiter text position →
      (∀ earlier, start ≤ earlier → earlier < position →
        ¬ OccursAt delimiter text earlier) →
      FoundFromLeft delimiter text (position + delimiter.length) positions →
      FoundFromLeft delimiter text start (position :: positions)

variable {delimiter text : List Char}

namespace FoundFromLeft

variable {start : Nat} {positions others : List Nat}

theorem unique (left : FoundFromLeft delimiter text start positions)
    (right : FoundFromLeft delimiter text start others) : positions = others := by
  induction left generalizing others with
  | done nowhere =>
      cases right with
      | done => rfl
      | found behind occurs => exact absurd occurs (nowhere _ behind)
  | @found start position positions behind occurs first later induction =>
      cases right with
      | done nowhere => exact absurd occurs (nowhere _ behind)
      | @found _ other others otherBehind otherOccurs otherFirst otherLater =>
          obtain rfl : position = other := by
            rcases Nat.lt_trichotomy position other with before | same | before
            · exact absurd occurs (otherFirst _ behind before)
            · exact same
            · exact absurd otherOccurs (first _ otherBehind before)
          rw [induction otherLater]

/-- A position without the delimiter can be skipped. -/
theorem skip (missing : ¬ OccursAt delimiter text start)
    (found : FoundFromLeft delimiter text (start + 1) positions) :
    FoundFromLeft delimiter text start positions := by
  have split {position : Nat} (behind : start ≤ position) :
      position = start ∨ start + 1 ≤ position := by omega
  cases found with
  | done nowhere =>
      refine .done fun position behind => ?_
      rcases split behind with rfl | later
      · exact missing
      · exact nowhere position later
  | found behind occurs first rest =>
      refine .found (by omega) occurs (fun earlier earlierBehind before => ?_) rest
      rcases split earlierBehind with rfl | later
      · exact missing
      · exact first earlier later before

end FoundFromLeft

/-! ## The pieces of a text -/

/-- A text and its pieces: a delimiter at the start ends an empty piece, and any other
character belongs to the piece at the start. -/
inductive Splits (delimiter : List Char) : List Char → List (List Char) → Prop where
  | nil : Splits delimiter [] [[]]
  | found {rest : List Char} {pieces : List (List Char)} :
      Splits delimiter rest pieces → Splits delimiter (delimiter ++ rest) ([] :: pieces)
  | kept {c : Char} {rest piece : List Char} {pieces : List (List Char)} :
      ¬ delimiter <+: c :: rest → Splits delimiter rest (piece :: pieces) →
      Splits delimiter (c :: rest) ((c :: piece) :: pieces)

namespace Splits

variable {pieces : List (List Char)}

theorem ne_nil (splits : Splits delimiter text pieces) : pieces ≠ [] := by
  cases splits <;> exact List.cons_ne_nil _ _

theorem join_eq (splits : Splits delimiter text pieces) : join delimiter pieces = text := by
  induction splits with
  | nil => rfl
  | @found rest pieces later induction =>
      obtain ⟨piece, others, rfl⟩ := List.exists_cons_of_ne_nil later.ne_nil
      rw [join, List.intercalate_cons_cons, List.nil_append]
      exact congrArg (delimiter ++ ·) induction
  | @kept c rest piece pieces _ _ induction =>
      cases pieces with
      | nil => simpa [join] using induction
      | cons other others =>
          rw [join, List.intercalate_cons_cons] at induction ⊢
          rw [List.cons_append, List.cons_append, induction]

theorem head_prefix {piece : List Char} (splits : Splits delimiter text (piece :: pieces)) :
    piece <+: text := by
  rw [← splits.join_eq]
  cases pieces with
  | nil => exact ⟨[], by simp [join]⟩
  | cons other others =>
      rw [join, List.intercalate_cons_cons, List.append_assoc]
      exact List.prefix_append _ _

/-- A delimiter in a piece would stand in the text before the end of that piece, where
the search would have found it. -/
theorem free (splits : Splits delimiter text pieces) (nonempty : delimiter ≠ []) :
    ∀ piece ∈ pieces, ¬ delimiter <:+: piece := by
  have notInNil : ¬ delimiter <:+: [] := fun inside => nonempty (List.infix_nil.mp inside)
  induction splits with
  | nil => simpa using notInNil
  | found _ induction => exact List.forall_mem_cons.mpr ⟨notInNil, induction⟩
  | @kept c rest piece pieces missing later induction =>
      obtain ⟨head, others⟩ := List.forall_mem_cons.mp induction
      refine List.forall_mem_cons.mpr ⟨fun inside => ?_, others⟩
      rcases List.infix_cons_iff.mp inside with atStart | behind
      · -- the first piece is the beginning of the text
        exact missing (atStart.trans (List.cons_prefix_cons.mpr ⟨rfl, later.head_prefix⟩))
      · exact head behind

/-- The search from a position of the whole text finds one occurrence less than there
are pieces of the text behind the position. -/
theorem exists_found {whole : List Char} (splits : Splits delimiter text pieces)
    (nonempty : delimiter ≠ []) {start : Nat} (behind : whole.drop start = text) :
    ∃ positions, FoundFromLeft delimiter whole start positions ∧
      pieces.length = positions.length + 1 := by
  induction splits generalizing start with
  | nil =>
      refine ⟨[], .done fun position later occurs => ?_, rfl⟩
      have ended : whole.drop position = [] := by
        rw [List.drop_eq_nil_iff] at behind ⊢
        omega
      rw [OccursAt, ended] at occurs
      exact nonempty (List.prefix_nil.mp occurs)
  | @found rest pieces _ induction =>
      have restBehind : whole.drop (start + delimiter.length) = rest := by
        rw [← List.drop_drop, behind, List.drop_left]
      obtain ⟨positions, found, count⟩ := induction restBehind
      have occurs : OccursAt delimiter whole start := by
        rw [OccursAt, behind]
        exact List.prefix_append _ _
      refine ⟨start :: positions, .found (Nat.le_refl _) occurs ?_ found, ?_⟩
      · omega
      · simp [count]
  | @kept c rest piece pieces missing _ induction =>
      have restBehind : whole.drop (start + 1) = rest := by
        rw [← List.drop_drop, behind, List.drop_one, List.tail_cons]
      obtain ⟨positions, found, count⟩ := induction restBehind
      have notHere : ¬ OccursAt delimiter whole start := by rwa [OccursAt, behind]
      exact ⟨positions, found.skip notHere, count⟩

end Splits

theorem splits_splitOn (nonempty : delimiter ≠ []) (text : List Char) :
    Splits delimiter text (splitOn delimiter text) := by
  fun_induction splitOn delimiter text with
  | case1 => exact .nil
  | case2 c rest here induction =>
      obtain ⟨behind, together⟩ : delimiter <+: c :: rest := by simpa [nonempty] using here
      obtain ⟨first, others, rfl⟩ := List.exists_cons_of_ne_nil nonempty
      obtain ⟨rfl, rfl⟩ : first = c ∧ others ++ behind = rest := by simpa using together
      rw [List.length_cons, Nat.add_sub_cancel, List.drop_left] at induction ⊢
      exact .found induction
  | case3 c rest missing none induction => exact absurd none induction.ne_nil
  | case4 c rest missing piece pieces split induction =>
      rw [split] at induction
      exact .kept (by simpa [nonempty] using missing) induction

end Text

/-! ## The operators -/

namespace Extension

/-- The pieces of a text as texts. -/
def piecesOf (delimiter text : String) : List String :=
  (Text.splitOn delimiter.toList text.toList).map String.ofList

variable {delimiter text : String} {pieces : List String}

theorem isNull_string_eq_false (nonempty : text ≠ "") :
    (Value.string text).isNull = false := by
  simpa [Value.isNull, Value.string] using nonempty

theorem explode_eq (someDelimiter : delimiter ≠ "") (someText : text ≠ "") (markup : String) :
    explode [.string delimiter, .string text] markup =
      .ok (.ordered ⟨.string, (piecesOf delimiter text).map .string⟩) := by
  have counted : expectCount "Explode" 2 [.string delimiter, .string text] = .ok () := rfl
  simp only [explode, counted, isNull_string_eq_false someDelimiter,
    isNull_string_eq_false someText, piecesOf, List.map_map]
  rfl

theorem implode_eq (delimiter : String) (nonempty : pieces ≠ []) (markup : String) :
    implode [.ordered ⟨.string, pieces.map .string⟩, .string delimiter] markup =
      .ok (.string (delimiter.intercalate pieces)) := by
  have counted : expectCount "Implode" 2
      [.ordered ⟨.string, pieces.map .string⟩, .string delimiter] = .ok () := rfl
  have notNull : (Value.ordered ⟨.string, pieces.map .string⟩).isNull = false := by
    simpa [Value.isNull, Container.isEmpty] using nonempty
  have strings : expectStrings "Implode" 0 (.ordered ⟨.string, pieces.map .string⟩) =
      .ok pieces := by
    simp [expectStrings, Value.container?, List.filterMap_map, Function.comp_def, Scalar.string?]
  simp only [implode, counted, notNull, strings]
  rfl

theorem intercalate_piecesOf (someDelimiter : delimiter ≠ "") :
    delimiter.intercalate (piecesOf delimiter text) = text := by
  have nonempty : delimiter.toList ≠ [] := by simpa using someDelimiter
  have joined := (Text.splits_splitOn nonempty text.toList).join_eq
  rw [← String.toList_inj, String.toList_intercalate, piecesOf, List.map_map]
  simpa [Function.comp_def, Text.join] using joined

end Extension

namespace CustomOperator

/-- What is exploded at a delimiter has one piece more than the delimiter is found in the
text from the left, the delimiter is in no piece, and imploding the pieces with the same
delimiter gives the text. -/
theorem implode_explode (settings : Settings) (store : Store)
    (definition joinDefinition : Option String) (markup joinMarkup : String)
    {delimiter text : String} (someDelimiter : delimiter ≠ "") (someText : text ≠ "") :
    let context : Context := ⟨⟨settings, .standard⟩, store⟩
    let explode : CustomOperator := ⟨some "Explode", definition, markup⟩
    let implode : CustomOperator := ⟨some "Implode", joinDefinition, joinMarkup⟩
    ∃ pieces : List String,
      explode.apply context [.string delimiter, .string text] =
        .ok (.ordered ⟨.string, pieces.map .string⟩) ∧
      (∃ positions,
        (∀ found, Text.FoundFromLeft delimiter.toList text.toList 0 found ↔
          found = positions) ∧
        pieces.length = positions.length + 1) ∧
      (∀ piece ∈ pieces, ¬ delimiter.toList <:+: piece.toList) ∧
      implode.apply context [.ordered ⟨.string, pieces.map .string⟩, .string delimiter] =
        .ok (.string text) := by
  intro context explode implode
  have nonempty : delimiter.toList ≠ [] := by simpa using someDelimiter
  have splits := Text.splits_splitOn nonempty text.toList
  refine ⟨Extension.piecesOf delimiter text, ?_, ?_, ?_, ?_⟩
  · exact Extension.explode_eq someDelimiter someText markup
  · obtain ⟨positions, found, count⟩ := splits.exists_found nonempty (List.drop_zero)
    refine ⟨positions, fun other => ⟨fun otherFound => otherFound.unique found, ?_⟩, ?_⟩
    · rintro rfl
      exact found
    · simpa [Extension.piecesOf] using count
  · intro piece member
    obtain ⟨characters, charactersMember, rfl⟩ := List.mem_map.mp member
    simpa using splits.free nonempty characters charactersMember
  · have somePieces : Extension.piecesOf delimiter text ≠ [] := by
      simpa [Extension.piecesOf] using splits.ne_nil
    have imploded := Extension.implode_eq delimiter somePieces joinMarkup
    rw [Extension.intercalate_piecesOf someDelimiter] at imploded
    exact imploded

/-- Of the overlapping occurrences the first ones count, and empty pieces stay. -/
theorem implode_explode_overlapping :
    let context : Context := ⟨⟨.default, .standard⟩, .empty⟩
    let pieces : Value := .ordered ⟨.string, [.string "", .string "", .string "b", .string "a"]⟩
    "aa" ≠ "" ∧ "aaaabaaa" ≠ "" ∧
      (⟨some "Explode", none, ""⟩ : CustomOperator).apply context
        [.string "aa", .string "aaaabaaa"] = .ok pieces ∧
      (∃ positions, Text.FoundFromLeft "aa".toList "aaaabaaa".toList 0 positions ∧
        positions.length = 3) ∧
      (⟨some "Implode", none, ""⟩ : CustomOperator).apply context [pieces, .string "aa"] =
        .ok (.string "aaaabaaa") := by
  intro context pieces
  have someDelimiter : "aa" ≠ "" := by decide
  have someText : "aaaabaaa" ≠ "" := by decide
  have exploded : (⟨some "Explode", none, ""⟩ : CustomOperator).apply context
      [.string "aa", .string "aaaabaaa"] = .ok pieces := by
    decide +kernel
  obtain ⟨texts, same, ⟨positions, found, count⟩, _, imploded⟩ :=
    implode_explode .default .empty none none "" "" someDelimiter someText
  have samePieces : pieces = .ordered ⟨.string, texts.map .string⟩ :=
    Except.ok.inj (exploded.symm.trans same)
  have four : texts.length = 4 := by
    have values := (Container.mk.inj (Value.ordered.inj samePieces)).2
    simpa using (congrArg List.length values).symm
  refine ⟨someDelimiter, someText, exploded, ⟨positions, (found positions).mpr rfl, ?_⟩, ?_⟩
  · omega
  · rw [samePieces]
    exact imploded

end CustomOperator

end Assessment
