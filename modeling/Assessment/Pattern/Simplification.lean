import Assessment.Pattern.Length

/-!
# Patterns in simple form

The functions that make patterns from their parts bring them into a simple form, which
matches the same stretches: neighbouring literals are one literal, sequences and choices
do not stand directly within their like, and a choice among characters is a class.

The main statement is `advance_joined`: joining parts does not change what they match.
-/

namespace Assessment.Pattern

/-- The pattern that nothing matches. -/
def nothing : Pattern := .one .empty false

/-- One character of a set.  A set with a single member is written as that character. -/
def ofSet (set : CharacterSet) (unicode : Bool) : Pattern :=
  if set.isEmpty then nothing
  else
    match set.only? with
    | some c => .literal [c]
    | none => .one set unicode

/-- A repetition.  A body whose matches are all empty is repeated at most once. -/
def repeated (body : Pattern) (least : Nat) (most : Option Nat) (greedy : Bool) : Pattern :=
  let least := if body.hasNoLength then Nat.min least 1 else least
  let most := if body.hasNoLength then some (Nat.min (most.getD 1) 1) else most
  if least = 0 && most == some 0 then .empty
  else if least = 1 && most == some 1 then body
  else .repetition body least most greedy

/-! ## Sequences -/

/-- What a pattern contributes to a sequence that it is a part of. -/
def partsOf : Pattern → List Pattern
  | .sequence parts => parts
  | .empty => []
  | part => [part]

/-- Puts a part before others; two literals become one. -/
def prepend (part : Pattern) (parts : List Pattern) : List Pattern :=
  match part, parts with
  | .literal written, .literal further :: rest => .literal (written ++ further) :: rest
  | _, _ => part :: parts

/-- Parts one behind the other. -/
def joined (parts : List Pattern) : Pattern :=
  match (parts.flatMap partsOf).foldr prepend [] with
  | [] => .empty
  | [part] => part
  | parts => .sequence parts

/-! ## What joined parts match -/

theorem advanceAll_append (text : Array Char) (first second : List Pattern)
    (starts : List Nat) :
    advanceAll text (first ++ second) starts =
      advanceAll text second (advanceAll text first starts) := by
  induction first generalizing starts with
  | nil => simp [advanceAll]
  | cons part parts induction => simp [advanceAll, induction]

/-- A text has two literals one behind the other where it has the first, and the second
behind that. -/
theorem standsAt_append (text : Array Char) (first second : List Char) (position : Nat) :
    standsAt text (first ++ second) position =
      (standsAt text first position && standsAt text second (position + first.length)) := by
  induction first generalizing position with
  | nil => simp [standsAt]
  | cons c rest induction =>
      have shift : position + 1 + rest.length = position + (rest.length + 1) := by omega
      simp [standsAt, induction, shift, Bool.and_assoc]

theorem behindLiteral_append (text : Array Char) (first second : List Char)
    (positions : List Nat) :
    behindLiteral text (first ++ second) positions =
      behindLiteral text second (behindLiteral text first positions) := by
  induction positions with
  | nil => rfl
  | cons position rest induction =>
      simp only [behindLiteral, List.filter_cons, standsAt_append, List.length_append] at *
      by_cases begins : standsAt text first position = true
      · by_cases goesOn : standsAt text second (position + first.length) = true
        · simp [begins, goesOn, induction, Nat.add_assoc]
        · simp [begins, goesOn, induction]
      · simp [begins, induction]

theorem advanceAll_prepend (text : Array Char) (part : Pattern) (parts : List Pattern)
    (starts : List Nat) :
    advanceAll text (prepend part parts) starts =
      advanceAll text parts (advance text part starts) := by
  unfold prepend
  split
  · next written further rest => simp [advanceAll, advance, behindLiteral_append]
  · simp [advanceAll]

theorem advanceAll_foldr_prepend (text : Array Char) (parts : List Pattern)
    (starts : List Nat) :
    advanceAll text (parts.foldr prepend []) starts = advanceAll text parts starts := by
  induction parts generalizing starts with
  | nil => rfl
  | cons part parts induction => simp [advanceAll_prepend, induction, advanceAll]

theorem advanceAll_partsOf (text : Array Char) (part : Pattern) (starts : List Nat) :
    advanceAll text (partsOf part) starts = advance text part starts := by
  cases part <;> simp [partsOf, advanceAll, advance]

theorem advanceAll_flatMap_partsOf (text : Array Char) (parts : List Pattern)
    (starts : List Nat) :
    advanceAll text (parts.flatMap partsOf) starts = advanceAll text parts starts := by
  induction parts generalizing starts with
  | nil => rfl
  | cons part parts induction =>
      simp [advanceAll_append, advanceAll_partsOf, induction, advanceAll]

/-- Joined parts match like the parts one behind the other. -/
theorem advance_joined (text : Array Char) (parts : List Pattern) (starts : List Nat) :
    advance text (joined parts) starts = advanceAll text parts starts := by
  rw [← advanceAll_flatMap_partsOf, ← advanceAll_foldr_prepend, joined]
  split
  · next equal => rw [equal]; rfl
  · next part equal => rw [equal]; simp [advanceAll]
  · next => simp [advance]

/-! ## Choices -/

/-- What a pattern contributes to a choice that it is a branch of. -/
def branchesOf : Pattern → List Pattern
  | .choice branches => branches
  | branch => [branch]

/-- The character that a literal of a single one consists of. -/
def character? : Pattern → Option Char
  | .literal [c] => some c
  | _ => none

def set? : Pattern → Option CharacterSet
  | .one set _ => some set
  | _ => none

def sequence? : Pattern → Option (List Pattern)
  | .sequence parts => some parts
  | _ => none

/-- The set that branches stand for if all of them are characters or all are classes. -/
def commonSet? (branches : List Pattern) : Option CharacterSet :=
  match branches.mapM character? with
  | some characters => some (.ofCodes (characters.map (·.toNat)))
  | none => (branches.mapM set?).map CharacterSet.unionAll

/-- How many parts two sequences have in common from the start on. -/
def commonCount : List Pattern → List Pattern → Nat
  | a :: restA, b :: restB => if same a b then commonCount restA restB + 1 else 0
  | _, _ => 0

/-- The parts that sequences begin with in common, and what remains of each. -/
def commonParts? (branches : List Pattern) : Option (List Pattern × List (List Pattern)) :=
  match branches.mapM sequence? with
  | some (first :: others) =>
      let count :=
        others.foldl (fun count other => Nat.min count (commonCount first other)) first.length
      if count = 0 then none
      else some (first.take count, (first :: others).map (·.drop count))
  | _ => none

mutual

/-- The number of patterns within a pattern, itself included. -/
def nodeCount : Pattern → Nat
  | .group _ body => nodeCount body + 1
  | .repetition body _ _ _ => nodeCount body + 1
  | .sequence parts => totalCount parts + 1
  | .choice branches => totalCount branches + 1
  | _ => 1

def totalCount : List Pattern → Nat
  | [] => 0
  | pattern :: rest => nodeCount pattern + totalCount rest

end

/-- A choice in at most so many rounds.  Every round takes common parts away. -/
def chosenWithin : Nat → List Pattern → Pattern
  | 0, branches => .choice branches
  | rounds + 1, branches =>
      match branches.flatMap branchesOf with
      | [] => nothing
      | [branch] => branch
      | branches =>
          match commonSet? branches with
          | some set => ofSet set true
          | none =>
              match commonParts? branches with
              | some (common, rests) =>
                  joined (common ++ [chosenWithin rounds (rests.map joined)])
              | none => .choice branches

/-- One of several branches.  What all of them begin with is put before the choice. -/
def chosen (branches : List Pattern) : Pattern :=
  chosenWithin (totalCount branches + 1) branches

end Assessment.Pattern
