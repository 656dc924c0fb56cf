import Mathlib.Data.List.Forall2

/-!
# Successful computations

What the success of a composed computation says about its parts: a sequence succeeds
if both parts do, and a conversion of a list succeeds if it does item by item.
-/

namespace Assessment

theorem bind_eq_ok_iff {ε α β : Type} {first : Except ε α} {next : α → Except ε β}
    {result : β} :
    first >>= next = .ok result ↔ ∃ value, first = .ok value ∧ next value = .ok result := by
  cases first <;> simp [bind, Except.bind]

theorem bind_eq_error_iff {ε α β : Type} {first : Except ε α} {next : α → Except ε β}
    {error : ε} :
    first >>= next = .error error ↔
      first = .error error ∨ ∃ value, first = .ok value ∧ next value = .error error := by
  cases first <;> simp [bind, Except.bind]

theorem map_eq_ok_iff {ε α β : Type} {convert : α → β} {first : Except ε α} {result : β} :
    first.map convert = .ok result ↔ ∃ value, first = .ok value ∧ convert value = result := by
  cases first <;> simp [Except.map]

theorem exists_error_of_not_ok {ε α : Type} {result : Except ε α}
    (fails : ∀ value, result ≠ .ok value) : ∃ error, result = .error error := by
  cases result with
  | error error => exact ⟨error, rfl⟩
  | ok value => exact absurd rfl (fails value)

theorem mapM_eq_some_iff {α β : Type} {convert : α → Option β} {items : List α}
    {results : List β} :
    items.mapM convert = some results ↔
      List.Forall₂ (fun item result => convert item = some result) items results := by
  induction items generalizing results with
  | nil => simp [eq_comm]
  | cons item items induction =>
      rw [List.mapM_cons, List.forall₂_cons_left_iff]
      constructor
      · intro success
        obtain ⟨first, firstSuccess, rest⟩ := Option.bind_eq_some_iff.mp success
        obtain ⟨others, othersSuccess, together⟩ := Option.bind_eq_some_iff.mp rest
        cases together
        exact ⟨first, others, firstSuccess, induction.mp othersSuccess, rfl⟩
      · rintro ⟨first, others, firstSuccess, othersSuccess, rfl⟩
        simp [firstSuccess, induction.mpr othersSuccess]

theorem isSome_mapM_iff {α β : Type} {convert : α → Option β} {items : List α} :
    (items.mapM convert).isSome ↔ ∀ item ∈ items, (convert item).isSome := by
  induction items with
  | nil => simp
  | cons item items induction =>
      rw [List.mapM_cons, List.forall_mem_cons, ← induction]
      cases convert item with
      | none => simp
      | some first => cases items.mapM convert <;> simp

/-- Lists related item by item leave no item on the right without one on the left. -/
theorem exists_of_mem_right {α β : Type} {relation : α → β → Prop} {left : List α}
    {right : List β} (pairs : List.Forall₂ relation left right) {b : β}
    (member : b ∈ right) : ∃ a ∈ left, relation a b := by
  induction pairs with
  | nil => cases member
  | cons related _ induction =>
      rcases List.mem_cons.mp member with rfl | later
      · exact ⟨_, List.mem_cons_self, related⟩
      · obtain ⟨a, old, relatedLater⟩ := induction later
        exact ⟨a, List.mem_cons_of_mem _ old, relatedLater⟩

theorem exists_of_mem_left {α β : Type} {relation : α → β → Prop} {left : List α}
    {right : List β} (pairs : List.Forall₂ relation left right) {a : α}
    (member : a ∈ left) : ∃ b ∈ right, relation a b :=
  exists_of_mem_right pairs.flip member

end Assessment
