import Assessment.Dictionary

/-!
# Indexes of lists of names

An index has the position of every name in a list, so that nobody has to search for it.
A list keeps its index while its names stay the same, and a new name at its end is one
more entry.
-/

namespace Assessment

/-- The positions of the names of a list.  A name leads to the first position at which
it stands, and what is not in the list leads nowhere. -/
class Index (names : List String) where
  positions : Dictionary Nat
  leads : ∀ name, positions.get? name = names.idxOf? name

namespace Index

variable {names : List String}

theorem eq (left right : Index names) : left = right := by
  obtain ⟨leftPositions, leftLeads⟩ := left
  obtain ⟨rightPositions, rightLeads⟩ := right
  congr 1
  exact Dictionary.eq_of_get? fun name => (leftLeads name).trans (rightLeads name).symm

/-- The index of a list of the same names. -/
@[reducible]
def keep {other : List String} (index : Index names) (same : other = names) :
    Index other :=
  ⟨index.positions, same ▸ index.leads⟩

theorem leads_append (index : Index names) {name : String}
    (new : index.positions.get? name = none) (asked : String) :
    (index.positions.insert name names.length).get? asked =
      (names ++ [name]).idxOf? asked := by
  rw [index.leads] at new
  rw [Dictionary.get?_insert, index.leads]
  unfold List.idxOf? at new ⊢
  rw [List.findIdx?_append]
  by_cases same : name = asked
  · subst same
    simp [new]
  · simp [same]

/-- The index of a list with a new name at its end. -/
@[reducible]
def append (index : Index names) {name : String}
    (new : index.positions.get? name = none) : Index (names ++ [name]) :=
  ⟨index.positions.insert name names.length, index.leads_append new⟩

/-- The positions of the names of a list that begins at a given position. -/
def positionsFrom (start : Nat) : List String → Dictionary Nat
  | [] => .empty
  | name :: names => (positionsFrom (start + 1) names).insert name start

theorem get?_positionsFrom (name : String) (start : Nat) (names : List String) :
    (positionsFrom start names).get? name = (names.idxOf? name).map (· + start) := by
  induction names generalizing start with
  | nil => rfl
  | cons first names induction =>
      rw [positionsFrom, Dictionary.get?_insert, induction, List.idxOf?_cons]
      by_cases same : first = name
      · simp [same]
      · simp [same, Function.comp_def, Nat.add_assoc, Nat.add_comm 1]

/-- Every list has an index. -/
instance : Index names :=
  ⟨positionsFrom 0 names, fun name => by simp [get?_positionsFrom]⟩

end Index

end Assessment
