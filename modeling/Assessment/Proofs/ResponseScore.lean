import Assessment.Proofs.FixedResult
import Assessment.Proofs.ValueEquality

/-!
# What responses score

A mapping counts each value of a response once and each of its entries once.  An earlier
value supersedes a later one if they are equal or have the same first entry, and a value
that is superseded adds nothing, so that it could as well be missing.

An area mapping counts each area that holds a point of the response once.  Only the set of
points counts, and of that only which areas it reaches.
-/

namespace Assessment

open Evaluation (Gives)

/-- Wherever the variable stands, the expression on its name gives the score. -/
def Variable.Scores (v : Variable) (expression : String → Expression) (score : Float) : Prop :=
  ∀ (context : Context) (identifier : String), 1 ≤ context.settings.maxExpressionDepth →
    context.store.get? identifier = some v →
    Gives ((expression identifier).evaluate context) (.ok (.float score))

theorem exists_mem_concat {α : Type} {items : List α} {last : α} {p : α → Prop} :
    (∃ item ∈ items ++ [last], p item) ↔ (∃ item ∈ items, p item) ∨ p last := by
  simp [or_and_right, exists_or]

/-! ## Entries of a mapping -/

namespace Scalar

variable {a b : Scalar}

theorem equal_congr (equal : a.equal b = true) (c : Scalar) : c.equal a = c.equal b := by
  rw [Bool.eq_iff_iff]
  exact ⟨fun equalCA => equal_trans equalCA equal,
    fun equalCB => equal_trans equalCB (equal_symm equal)⟩

theorem string?_eq_of_equal (equal : a.equal b = true) : a.string? = b.string? := by
  unfold Scalar.equal at equal
  split at equal
  case h_4 | h_5 | h_6 => exact congrArg some (beq_iff_eq.mp equal)
  case h_7 => rw [of_decide_eq_true equal]
  case h_13 => cases equal
  all_goals rfl

end Scalar

theorem MapEntry.covers_congr {a b : Scalar} (equal : a.equal b = true) (entry : MapEntry) :
    entry.covers a = entry.covers b := by
  simp only [covers, Scalar.string?_eq_of_equal equal, Scalar.baseType_eq_of_equal equal,
    Scalar.equal_congr equal]

namespace Mapping

variable {mapping : Mapping} {a b c u value : Scalar} {earlier before seen values : List Scalar}
  {used : List Nat}

theorem entryFor?_congr (equal : a.equal b = true) (mapping : Mapping) :
    mapping.entryFor? a = mapping.entryFor? b := by
  simp only [entryFor?, MapEntry.covers_congr equal]

/-- What a value adds to the score if it comes after the earlier ones: nothing if it equals
one of them, the default if no entry covers it, and else the score of the first entry that
does, unless this is the first entry of an earlier value too. -/
def share (mapping : Mapping) (earlier : List Scalar) (value : Scalar) : Option Float :=
  if ∃ u ∈ earlier, u.equal value = true then none
  else
    match mapping.entryFor? value with
    | none => some mapping.default
    | some entry =>
        if ∃ u ∈ earlier, mapping.entryFor? u = some entry then none else some entry.1.score

/-- What each of the values adds, in their order. -/
def shares (mapping : Mapping) (earlier : List Scalar) : List Scalar → List Float
  | [] => []
  | value :: rest =>
      (mapping.share earlier value).toList ++ shares mapping (earlier ++ [value]) rest

/-! ## The run over the values -/

/-- What a run has noted after the earlier values. -/
structure Notes (mapping : Mapping) (earlier seen : List Scalar) (used : List Nat) : Prop where
  seen_iff : ∀ value : Scalar,
    (∃ u ∈ seen, u.equal value = true) ↔ ∃ u ∈ earlier, u.equal value = true
  used_iff : ∀ position, position ∈ used ↔
    ∃ u ∈ earlier, ∃ entry, mapping.entryFor? u = some (entry, position)

namespace Notes

theorem nothing (mapping : Mapping) : mapping.Notes [] [] [] := by
  constructor <;> simp

/-- A value that equals an earlier one tells nothing new. -/
theorem repeated (notes : mapping.Notes earlier seen used) (member : u ∈ earlier)
    (equal : u.equal value = true) : mapping.Notes (earlier ++ [value]) seen used := by
  constructor
  · intro other
    rw [exists_mem_concat, notes.seen_iff, iff_self_or]
    exact fun equalOther => ⟨u, member, Scalar.equal_trans equal equalOther⟩
  · intro position
    rw [exists_mem_concat, notes.used_iff, iff_self_or]
    exact fun covered => ⟨u, member, entryFor?_congr equal mapping ▸ covered⟩

theorem push (notes : mapping.Notes earlier seen used) {used' : List Nat}
    (used'_iff : ∀ position, position ∈ used' ↔
      position ∈ used ∨ ∃ entry, mapping.entryFor? value = some (entry, position)) :
    mapping.Notes (earlier ++ [value]) (value :: seen) used' := by
  constructor
  · intro other
    rw [exists_mem_concat, ← notes.seen_iff, List.exists_mem_cons_iff, or_comm]
  · intro position
    rw [exists_mem_concat, ← notes.used_iff, used'_iff]

end Notes

/-- The position of an entry tells which one it is. -/
theorem getElem?_of_entryFor? {entry : MapEntry} {position : Nat}
    (found : mapping.entryFor? value = some (entry, position)) :
    mapping.entries[position]? = some entry :=
  List.mem_zipIdx_iff_getElem?.mp (List.mem_of_find?_eq_some found)

theorem Notes.used_iff_of_entryFor? (notes : mapping.Notes earlier seen used)
    {entry : MapEntry} {position : Nat}
    (found : mapping.entryFor? value = some (entry, position)) :
    position ∈ used ↔ ∃ u ∈ earlier, mapping.entryFor? u = some (entry, position) := by
  rw [notes.used_iff]
  constructor
  · rintro ⟨u, member, other, foundOther⟩
    have same : some other = some entry :=
      (getElem?_of_entryFor? foundOther).symm.trans (getElem?_of_entryFor? found)
    exact ⟨u, member, Option.some.inj same ▸ foundOther⟩
  · rintro ⟨u, member, foundU⟩
    exact ⟨u, member, entry, foundU⟩

/-- A value that equals no earlier one contributes its share. -/
theorem Notes.contribution_eq (notes : mapping.Notes earlier seen used)
    (new : ¬∃ u ∈ earlier, u.equal value = true) :
    ∃ used', mapping.contribution used value = (mapping.share earlier value, used') ∧
      mapping.Notes (earlier ++ [value]) (value :: seen) used' := by
  unfold contribution share
  rw [if_neg new]
  cases found : mapping.entryFor? value with
  | none =>
      refine ⟨used, rfl, notes.push fun position => ?_⟩
      simp [found]
  | some entry =>
      obtain ⟨entry, position⟩ := entry
      have spent := notes.used_iff_of_entryFor? found
      dsimp only
      by_cases member : position ∈ used
      · rw [if_pos (List.contains_iff_mem.mpr member), if_pos (spent.mp member)]
        refine ⟨used, rfl, notes.push fun other => ?_⟩
        simp only [found, Option.some.injEq, Prod.mk.injEq, exists_eq_left', iff_self_or]
        exact fun same => same ▸ member
      · rw [if_neg (mt List.contains_iff_mem.mp member), if_neg (mt spent.mpr member)]
        refine ⟨position :: used, rfl, notes.push fun other => ?_⟩
        simp only [found, Option.some.injEq, Prod.mk.injEq, exists_eq_left', List.mem_cons,
          or_comm, eq_comm]

/-- The total grows by the shares of the values. -/
theorem total_eq_foldl (notes : mapping.Notes earlier seen used) (sum : Float) :
    mapping.total seen used sum values =
      (mapping.shares earlier values).foldl (· + ·) sum := by
  induction values generalizing earlier seen used sum with
  | nil => rfl
  | cons value rest induction =>
      rw [total, shares, List.foldl_append]
      by_cases equal : ∃ u ∈ earlier, u.equal value = true
      · obtain ⟨u, member, equalU⟩ := equal
        have noted : seen.any (fun earlier => earlier.equal value) = true :=
          List.any_eq_true.mpr ((notes.seen_iff value).mpr ⟨u, member, equalU⟩)
        have nothing : mapping.share earlier value = none := if_pos ⟨u, member, equalU⟩
        rw [if_pos noted, nothing]
        exact induction (notes.repeated member equalU) sum
      · have unseen : ¬seen.any (fun earlier => earlier.equal value) = true :=
          mt (fun noted => (notes.seen_iff value).mp (List.any_eq_true.mp noted)) equal
        obtain ⟨used', contributes, notes'⟩ := notes.contribution_eq equal
        rw [if_neg unseen, contributes]
        cases mapping.share earlier value with
        | none => exact induction notes' sum
        | some score => exact induction notes' (sum + score)

/-! ## Values that add nothing -/

/-- After the first value the other one adds nothing: they are equal, or the same entry is
the first to cover them. -/
def Supersedes (mapping : Mapping) (u value : Scalar) : Prop :=
  u.equal value = true ∨
    ∃ entry, mapping.entryFor? u = some entry ∧ mapping.entryFor? value = some entry

theorem Supersedes.trans (first : mapping.Supersedes a b) (second : mapping.Supersedes b c) :
    mapping.Supersedes a c := by
  rcases first with equalAB | ⟨entry, foundA, foundB⟩
  · rcases second with equalBC | ⟨entry, foundB, foundC⟩
    · exact .inl (Scalar.equal_trans equalAB equalBC)
    · exact .inr ⟨entry, (entryFor?_congr equalAB mapping).trans foundB, foundC⟩
  · rcases second with equalBC | ⟨other, foundB', foundC⟩
    · exact .inr ⟨entry, foundA, (entryFor?_congr equalBC mapping).symm.trans foundB⟩
    · obtain rfl : entry = other := Option.some.inj (foundB.symm.trans foundB')
      exact .inr ⟨entry, foundA, foundC⟩

theorem share_of_superseded (superseded : ∃ u ∈ earlier, mapping.Supersedes u value) :
    mapping.share earlier value = none := by
  unfold share
  split
  next => rfl
  next new =>
    obtain ⟨u, member, equal | ⟨entry, foundU, found⟩⟩ := superseded
    · exact absurd ⟨u, member, equal⟩ new
    · rw [found]
      exact if_pos ⟨u, member, foundU⟩

theorem share_of_not_superseded (new : ¬∃ u ∈ earlier, mapping.Supersedes u value) :
    mapping.share earlier value =
      some ((mapping.entryFor? value).elim mapping.default (·.1.score)) := by
  have different : ¬∃ u ∈ earlier, u.equal value = true :=
    fun ⟨u, member, equal⟩ => new ⟨u, member, .inl equal⟩
  rw [share, if_neg different]
  cases found : mapping.entryFor? value with
  | none => rfl
  | some entry =>
      exact if_neg fun ⟨u, member, foundU⟩ => new ⟨u, member, .inr ⟨entry, foundU, found⟩⟩

/-- What the earlier values are matters only for what they supersede. -/
theorem shares_congr
    (alike : ∀ value, (∃ u ∈ earlier, mapping.Supersedes u value) ↔
      ∃ u ∈ before, mapping.Supersedes u value) :
    mapping.shares earlier values = mapping.shares before values := by
  induction values generalizing earlier before with
  | nil => rfl
  | cons value rest induction =>
      have same : mapping.share earlier value = mapping.share before value := by
        by_cases superseded : ∃ u ∈ earlier, mapping.Supersedes u value
        · rw [share_of_superseded superseded, share_of_superseded ((alike value).mp superseded)]
        · rw [share_of_not_superseded superseded,
            share_of_not_superseded (mt (alike value).mpr superseded)]
      rw [shares, shares, same]
      congr 1
      refine induction fun other => ?_
      rw [exists_mem_concat, exists_mem_concat, alike other]

theorem shares_append (earlier values others : List Scalar) :
    mapping.shares earlier (values ++ others) =
      mapping.shares earlier values ++ mapping.shares (earlier ++ values) others := by
  induction values generalizing earlier with
  | nil => simp [shares]
  | cons value rest induction => simp [shares, induction]

/-- A superseded value can be left out. -/
theorem shares_insert {after : List Scalar}
    (superseded : ∃ u ∈ before, mapping.Supersedes u value) :
    mapping.shares [] (before ++ value :: after) = mapping.shares [] (before ++ after) := by
  rw [shares_append, shares_append, shares, List.nil_append, share_of_superseded superseded]
  congr 1
  refine shares_congr fun other => ?_
  obtain ⟨u, member, supersedes⟩ := superseded
  rw [exists_mem_concat, or_iff_left_iff_imp]
  exact fun later => ⟨u, member, supersedes.trans later⟩

end Mapping

namespace Variable

variable {v : Variable} {mapping : Mapping}

theorem mappedScore_eq (maps : v.responseInfo?.bind (·.mapping) = some mapping)
    (answered : v.value.scalars ≠ []) :
    v.mappedScore = .ok (.float (mapping.bounds.clamp
      ((mapping.shares [] v.value.scalars).foldl (· + ·) 0.0))) := by
  have notEmpty : ¬v.value.scalars.isEmpty = true := mt List.isEmpty_iff.mp answered
  have score : mapping.score v.value.scalars = _ := if_neg notEmpty
  rw [Mapping.total_eq_foldl (.nothing mapping)] at score
  rw [← score, mappedScore, maps]
  cases value : v.value with
  | record fields =>
      rw [value] at answered
      exact absurd rfl answered
  | _ => rfl

/-- A response that is not empty scores the sum of the shares of its values, brought between
the bounds, and a further value that an earlier one supersedes leaves this score as it is. -/
theorem mapResponse_scores_shares (maps : v.responseInfo?.bind (·.mapping) = some mapping)
    (answered : v.value.scalars ≠ []) :
    let score := mapping.bounds.clamp ((mapping.shares [] v.value.scalars).foldl (· + ·) 0.0)
    v.Scores .mapResponse score ∧
      ∀ (longer : Value) (before after : List Scalar) (value : Scalar),
        v.value.scalars = before ++ after → longer.scalars = before ++ value :: after →
        (∃ u ∈ before, mapping.Supersedes u value) →
        (v.setValue longer).Scores .mapResponse score := by
  intro score
  constructor
  · intro context identifier within found
    rw [← mappedScore_eq maps answered]
    exact Expression.mapResponse_gives within found
  · intro longer before after value split inserted superseded context identifier within found
    have longerAnswered : (v.setValue longer).value.scalars ≠ [] := by
      change longer.scalars ≠ []
      simp [inserted]
    have same : mapping.shares [] longer.scalars = mapping.shares [] v.value.scalars := by
      rw [inserted, split, Mapping.shares_insert superseded]
    have scored := mappedScore_eq (v := v.setValue longer) maps longerAnswered
    rw [show (v.setValue longer).value = longer from rfl, same] at scored
    rw [← scored]
    exact Expression.mapResponse_gives within found

/-- Zeros of both signs are one value, whereas NaN scores the default each time. -/
theorem mapResponse_scores_shares_zeros :
    let mapping : Mapping :=
      ⟨⟨none, some 2.0⟩, -0.25, [⟨.float 0.0, 1.0, true⟩, ⟨.float (-0.0), 4.0, true⟩]⟩
    let v : Variable :=
      ⟨"GUESSES", .multiple .float, .response ⟨.null, some mapping, none⟩,
        .multiple ⟨.float, [.float (-0.0), .float Real64.nan, .float Real64.nan]⟩, .null⟩
    let longer : Value :=
      .multiple ⟨.float, [.float (-0.0), .float Real64.nan, .float 0.0, .float Real64.nan]⟩
    v.responseInfo?.bind (·.mapping) = some mapping ∧ v.value.scalars ≠ [] ∧
      mapping.Supersedes (.float (-0.0)) (.float 0.0) ∧
      v.Scores .mapResponse 0.5 ∧ (v.setValue longer).Scores .mapResponse 0.5 := by
  intro mapping v longer
  have maps : v.responseInfo?.bind (·.mapping) = some mapping := rfl
  have answered : v.value.scalars ≠ [] := by simp [v, Value.scalars]
  have supersedes : mapping.Supersedes (.float (-0.0)) (.float 0.0) := .inl (by decide +kernel)
  have score : mapping.bounds.clamp ((mapping.shares [] v.value.scalars).foldl (· + ·) 0.0) =
      0.5 := by
    decide +kernel
  obtain ⟨scores, inserted⟩ := mapResponse_scores_shares maps answered
  rw [score] at scores inserted
  exact ⟨maps, answered, supersedes, scores,
    inserted longer [.float (-0.0), .float Real64.nan] [.float Real64.nan] (.float 0.0) rfl rfl
      ⟨_, List.mem_cons_self, supersedes⟩⟩

end Variable

/-! ## Areas -/

namespace AreaMapping

variable {mapping : AreaMapping} {points others : List Point} {entries : List AreaEntry}

/-- The scores that count: one for each entry whose area holds at least one of the points,
in the order of the entries. -/
inductive Counted (points : List Point) : List AreaEntry → List Float → Prop where
  | nil : Counted points [] []
  | reached {entry : AreaEntry} {entries : List AreaEntry} {scores : List Float} {point : Point}
      (member : point ∈ points) (inside : entry.area.contains point = true)
      (rest : Counted points entries scores) :
      Counted points (entry :: entries) (entry.score :: scores)
  | missed {entry : AreaEntry} {entries : List AreaEntry} {scores : List Float}
      (outside : ∀ point ∈ points, entry.area.contains point = false)
      (rest : Counted points entries scores) :
      Counted points (entry :: entries) scores

theorem counted_filter (points : List Point) (entries : List AreaEntry) :
    Counted points entries
      ((entries.filter fun entry => points.any entry.area.contains).map (·.score)) := by
  induction entries with
  | nil => exact .nil
  | cons entry entries induction =>
      rw [List.filter_cons]
      split
      next hit =>
        obtain ⟨point, member, inside⟩ := List.any_eq_true.mp hit
        exact .reached member inside induction
      next missed =>
        refine .missed (fun point member => ?_) induction
        apply eq_false_of_ne_true
        exact fun inside => missed (List.any_eq_true.mpr ⟨point, member, inside⟩)

/-- The points matter only for the areas that they reach. -/
theorem score_congr
    (alike : ∀ entry ∈ mapping.entries,
      (∃ point ∈ others, entry.area.contains point = true) ↔
        ∃ point ∈ points, entry.area.contains point = true) :
    mapping.score others = mapping.score points := by
  have hits : (mapping.entries.filter fun entry => others.any entry.area.contains) =
      mapping.entries.filter fun entry => points.any entry.area.contains := by
    refine List.filter_congr fun entry member => ?_
    rw [Bool.eq_iff_iff, List.any_eq_true, List.any_eq_true]
    exact alike entry member
  rw [score, score, hits]

end AreaMapping

namespace Variable

variable {v : Variable} {mapping : AreaMapping}

theorem areaScore_eq (maps : v.responseInfo?.bind (·.areaMapping) = some mapping)
    (flat : v.value.record? = none) :
    v.areaScore = .ok (.float (mapping.score v.value.points)) := by
  rw [areaScore, maps]
  cases value : v.value with
  | record fields =>
      rw [value] at flat
      cases flat
  | _ => rfl

/-- A response that is not a record scores the sum of the scores of the areas that its points
reach, each of them once, or the default if they reach none.  A response with the same
points, or with points that reach the same areas, scores the same. -/
theorem mapResponsePoint_scores_areas
    (maps : v.responseInfo?.bind (·.areaMapping) = some mapping)
    (flat : v.value.record? = none) :
    ∃ scores, AreaMapping.Counted v.value.points mapping.entries scores ∧
      let score := mapping.bounds.clamp
        (if scores = [] then mapping.default else sumFloats scores)
      v.Scores .mapResponsePoint score ∧
        ∀ other : Value, other.record? = none →
          ((∀ point, point ∈ other.points ↔ point ∈ v.value.points) ∨
            ∀ entry ∈ mapping.entries,
              (∃ point ∈ other.points, entry.area.contains point = true) ↔
                ∃ point ∈ v.value.points, entry.area.contains point = true) →
          (v.setValue other).Scores .mapResponsePoint score := by
  refine ⟨_, AreaMapping.counted_filter v.value.points mapping.entries, ?_⟩
  intro score
  have scored : mapping.score v.value.points = score := by
    simp [AreaMapping.score, score]
  constructor
  · intro context identifier within found
    rw [← scored, ← areaScore_eq maps flat]
    exact Expression.mapResponsePoint_gives within found
  · intro other otherFlat alike context identifier within found
    have reaches : ∀ entry ∈ mapping.entries,
        (∃ point ∈ other.points, entry.area.contains point = true) ↔
          ∃ point ∈ v.value.points, entry.area.contains point = true := by
      rcases alike with samePoints | sameAreas
      · intro entry _
        simp only [samePoints]
      · exact sameAreas
    have otherScored := areaScore_eq (v := v.setValue other) maps otherFlat
    rw [show (v.setValue other).value = other from rfl, AreaMapping.score_congr reaches,
      scored] at otherScored
    rw [← otherScored]
    exact Expression.mapResponsePoint_gives within found

/-- Two clicks into overlapping areas and one beside them, against the same clicks in another
order and repeated. -/
theorem mapResponsePoint_scores_areas_clicks :
    let mapping : AreaMapping :=
      ⟨⟨none, some 3.0⟩, -1.0,
        [⟨.circle 5 5 5, 1.5⟩, ⟨.rect 0 0 8 8, 0.75⟩, ⟨.rect 40 40 50 50, 9.0⟩]⟩
    let v : Variable :=
      ⟨"CLICKS", .multiple .point, .response ⟨.null, none, some mapping⟩,
        .multiple ⟨.point, [.point ⟨6, 6⟩, .point ⟨20, 0⟩, .point ⟨5, 4⟩]⟩, .null⟩
    let other : Value :=
      .ordered ⟨.point, [.point ⟨5, 4⟩, .point ⟨6, 6⟩, .point ⟨5, 4⟩, .point ⟨20, 0⟩]⟩
    v.responseInfo?.bind (·.areaMapping) = some mapping ∧ v.value.record? = none ∧
      other.record? = none ∧ (∀ point, point ∈ other.points ↔ point ∈ v.value.points) ∧
      ∃ scores, AreaMapping.Counted v.value.points mapping.entries scores ∧
        let score := mapping.bounds.clamp
          (if scores = [] then mapping.default else sumFloats scores)
        v.Scores .mapResponsePoint score ∧ (v.setValue other).Scores .mapResponsePoint score := by
  intro mapping v other
  have maps : v.responseInfo?.bind (·.areaMapping) = some mapping := rfl
  have samePoints : ∀ point, point ∈ other.points ↔ point ∈ v.value.points := by
    intro point
    simp [v, other, Value.points, Value.scalars, Scalar.point?]
    tauto
  obtain ⟨scores, counted, scored, others⟩ := mapResponsePoint_scores_areas maps rfl
  exact ⟨maps, rfl, rfl, samePoints, scores, counted, scored, others other rfl (.inl samePoints)⟩

end Variable

end Assessment
