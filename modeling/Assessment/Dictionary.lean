/-!
# Dictionaries in the order of their keys

Records, mappings of template names and JSON objects are looked at in increasing
order of their keys, code point by code point.  A `Dictionary` is the list of its
entries in that order, so two dictionaries with the same entries are the same.
-/

namespace Assessment

/-- Puts an entry at its place among entries sorted by key; an entry of the same key
is replaced. -/
def insertEntry {α : Type} (key : String) (value : α) :
    List (String × α) → List (String × α)
  | [] => [(key, value)]
  | (other, old) :: rest =>
      if key < other then (key, value) :: (other, old) :: rest
      else if key = other then (key, value) :: rest
      else (other, old) :: insertEntry key value rest

/-- The value of the first entry with a key. -/
def lookupEntry {α : Type} (key : String) : List (String × α) → Option α
  | [] => none
  | (other, value) :: rest => if other = key then some value else lookupEntry key rest

/-- Entries with strictly increasing keys. -/
abbrev KeysIncrease {α : Type} (entries : List (String × α)) : Prop :=
  entries.Pairwise fun left right => left.1 < right.1

theorem mem_insertEntry {α : Type} {key : String} {value : α} {entry : String × α}
    {entries : List (String × α)} (member : entry ∈ insertEntry key value entries) :
    entry = (key, value) ∨ entry ∈ entries := by
  induction entries with
  | nil => simpa [insertEntry] using member
  | cons head rest induction =>
      obtain ⟨other, old⟩ := head
      rw [insertEntry] at member
      split at member
      next => simpa using member
      next =>
        split at member
        next =>
          rcases List.mem_cons.mp member with here | later
          · exact .inl here
          · exact .inr (List.mem_cons_of_mem _ later)
        next =>
          rcases List.mem_cons.mp member with here | later
          · exact .inr (here ▸ List.mem_cons_self)
          · rcases induction later with here | old
            · exact .inl here
            · exact .inr (List.mem_cons_of_mem _ old)

theorem keysIncrease_insertEntry {α : Type} {key : String} {value : α}
    {entries : List (String × α)} (increase : KeysIncrease entries) :
    KeysIncrease (insertEntry key value entries) := by
  induction entries with
  | nil => simp [insertEntry, KeysIncrease]
  | cons head rest induction =>
      obtain ⟨other, old⟩ := head
      obtain ⟨above, restIncrease⟩ := List.pairwise_cons.mp increase
      rw [insertEntry]
      split
      next before =>
        refine List.pairwise_cons.mpr ⟨?_, increase⟩
        intro entry member
        rcases List.mem_cons.mp member with here | later
        · exact here ▸ before
        · exact String.lt_trans before (above entry later)
      next notBefore =>
        split
        next same => exact List.pairwise_cons.mpr ⟨same ▸ above, restIncrease⟩
        next different =>
          refine List.pairwise_cons.mpr ⟨?_, induction restIncrease⟩
          intro entry member
          rcases mem_insertEntry member with here | old
          · subst here
            exact Std.lt_of_le_of_ne (String.not_lt.mp notBefore) (Ne.symm different)
          · exact above entry old

theorem lookupEntry_insertEntry {α : Type} {key : String} {value : α} (wanted : String)
    (entries : List (String × α)) :
    lookupEntry wanted (insertEntry key value entries) =
      if key = wanted then some value else lookupEntry wanted entries := by
  induction entries with
  | nil => rfl
  | cons head rest induction =>
      obtain ⟨other, old⟩ := head
      rw [insertEntry]
      split
      next => rfl
      next =>
        split
        next same =>
          subst same
          by_cases asked : key = wanted <;> simp [lookupEntry, asked]
        next different =>
          simp only [lookupEntry, induction]
          by_cases asked : key = wanted
          · subst asked
            rw [if_neg (Ne.symm different), if_pos rfl, if_pos rfl]
          · rw [if_neg asked, if_neg asked]

theorem lookupEntry_eq_none_of_lt {α : Type} {key : String} {entries : List (String × α)}
    (below : ∀ entry ∈ entries, key < entry.1) : lookupEntry key entries = none := by
  induction entries with
  | nil => rfl
  | cons head rest induction =>
      obtain ⟨before, later⟩ := List.forall_mem_cons.mp below
      have different : head.1 ≠ key := fun same => String.lt_irrefl key (same ▸ before)
      rw [lookupEntry, if_neg different, induction later]

/-- No key that is found comes before the first one. -/
theorem le_of_lookupEntry {α : Type} {key : String} {value : α} {head : String × α}
    {rest : List (String × α)} (increase : KeysIncrease (head :: rest))
    (found : lookupEntry key (head :: rest) = some value) : head.1 ≤ key := by
  refine String.not_lt.mp fun before => ?_
  have below : ∀ entry ∈ head :: rest, key < entry.1 :=
    List.forall_mem_cons.mpr ⟨before, fun entry member =>
      String.lt_trans before ((List.pairwise_cons.mp increase).1 entry member)⟩
  rw [lookupEntry_eq_none_of_lt below] at found
  cases found

/-- The values found under all keys determine the entries. -/
theorem eq_of_lookupEntry {α : Type} {left right : List (String × α)}
    (leftIncrease : KeysIncrease left) (rightIncrease : KeysIncrease right)
    (same : ∀ key, lookupEntry key left = lookupEntry key right) : left = right := by
  induction left generalizing right with
  | nil =>
      cases right with
      | nil => rfl
      | cons head rest => simpa [lookupEntry] using same head.1
  | cons head rest induction =>
      cases right with
      | nil => simpa [lookupEntry] using same head.1
      | cons other otherRest =>
          obtain ⟨key, value⟩ := head
          obtain ⟨otherKey, otherValue⟩ := other
          obtain ⟨above, restIncrease⟩ := List.pairwise_cons.mp leftIncrease
          obtain ⟨otherAbove, otherRestIncrease⟩ := List.pairwise_cons.mp rightIncrease
          have found : lookupEntry key ((otherKey, otherValue) :: otherRest) = some value := by
            rw [← same key, lookupEntry, if_pos rfl]
          have otherFound : lookupEntry otherKey ((key, value) :: rest) = some otherValue := by
            rw [same otherKey, lookupEntry, if_pos rfl]
          obtain rfl : key = otherKey :=
            String.le_antisymm (le_of_lookupEntry leftIncrease otherFound)
              (le_of_lookupEntry rightIncrease found)
          have sameValue : otherValue = value := by simpa [lookupEntry] using found
          have sameRest : rest = otherRest := by
            refine induction restIncrease otherRestIncrease fun asked => ?_
            by_cases here : key = asked
            · subst here
              rw [lookupEntry_eq_none_of_lt above, lookupEntry_eq_none_of_lt otherAbove]
            · simpa [lookupEntry, here] using same asked
          rw [sameValue, sameRest]

/-- Entries in increasing order of their keys. -/
structure Dictionary (α : Type) where
  entries : List (String × α)
  increase : KeysIncrease entries
  deriving DecidableEq

namespace Dictionary

variable {α : Type}

def empty : Dictionary α :=
  ⟨[], List.Pairwise.nil⟩

instance : Inhabited (Dictionary α) :=
  ⟨empty⟩

def get? (dictionary : Dictionary α) (key : String) : Option α :=
  lookupEntry key dictionary.entries

def contains (dictionary : Dictionary α) (key : String) : Bool :=
  (dictionary.get? key).isSome

/-- The dictionary with an entry added or replaced. -/
def insert (key : String) (value : α) (dictionary : Dictionary α) : Dictionary α :=
  ⟨insertEntry key value dictionary.entries, keysIncrease_insertEntry dictionary.increase⟩

theorem get?_insert (key : String) (value : α) (dictionary : Dictionary α) (wanted : String) :
    (dictionary.insert key value).get? wanted =
      if key = wanted then some value else dictionary.get? wanted :=
  lookupEntry_insertEntry wanted dictionary.entries

theorem eq_of_get? {left right : Dictionary α}
    (same : ∀ key, left.get? key = right.get? key) : left = right := by
  obtain ⟨leftEntries, leftIncrease⟩ := left
  obtain ⟨rightEntries, rightIncrease⟩ := right
  congr 1
  exact eq_of_lookupEntry leftIncrease rightIncrease same

/-- The dictionary without the entry of a key. -/
def erase (key : String) (dictionary : Dictionary α) : Dictionary α :=
  ⟨dictionary.entries.filter (fun entry => entry.1 != key),
    dictionary.increase.sublist List.filter_sublist⟩

def size (dictionary : Dictionary α) : Nat :=
  dictionary.entries.length

def isEmpty (dictionary : Dictionary α) : Bool :=
  dictionary.entries.isEmpty

def keys (dictionary : Dictionary α) : List String :=
  dictionary.entries.map (·.1)

/-- The dictionary of a list of entries, of which the last of each key counts. -/
def ofList (entries : List (String × α)) : Dictionary α :=
  entries.foldl (fun dictionary entry => dictionary.insert entry.1 entry.2) empty

/-- All entries of both; where both have a key, the second one counts. -/
def overlay (base extra : Dictionary α) : Dictionary α :=
  extra.entries.foldl (fun dictionary entry => dictionary.insert entry.1 entry.2) base

end Dictionary

end Assessment
