import Assessment.Text.CaseRun

/-!
# Case folding

Two characters are variants of each other if simple case folding, here that of version
16 of Unicode, takes them to the same character.
-/

namespace Assessment.Text

/-- The characters that simple case folding changes. -/
def foldRuns : List CaseRun :=
  CaseRun.ofLines
    ["65 25 1 200032 91 0 1 200775 11 22 1 200032 2 6 1 200032 34 23 2 200001 4 2 2 200001",
     "3 7 2 200001 3 22 2 200001 2 0 1 199879 1 2 2 200001 2 0 1 199732 2 0 1 200210 1 1 2",
     "200001 2 0 1 200206 1 0 1 200001 2 1 1 200205 1 0 1 200001 3 0 1 200079 1 0 1 200202",
     "1 0 1 200203 1 0 1 200001 2 0 1 200205 1 0 1 200207 2 0 1 200211 1 0 1 200209 1 0 1",
     "200001 4 0 1 200211 1 0 1 200213 2 0 1 200214 1 2 2 200001 2 0 1 200218 1 0 1 200001",
     "2 0 1 200218 3 0 1 200001 2 0 1 200218 1 0 1 200001 2 1 1 200217 1 1 2 200001 2 0 1",
     "200219 1 0 1 200001 4 0 1 200001 8 0 1 200002 1 0 1 200001 2 0 1 200002 1 0 1 200001",
     "2 0 1 200002 1 8 2 200001 3 8 2 200001 3 0 1 200002 1 1 2 200001 2 0 1 199903 1 0 1",
     "199944 1 19 2 200001 2 0 1 199870 2 8 2 200001 8 0 1 210795 1 0 1 200001 2 0 1",
     "199837 1 0 1 210792 3 0 1 200001 2 0 1 199805 1 0 1 200069 1 0 1 200071 1 4 2 200001",
     "247 0 1 200116 43 1 2 200001 4 0 1 200001 9 0 1 200116 7 0 1 200038 2 2 1 200037 2 0",
     "1 200064 2 1 1 200063 2 16 1 200032 2 8 1 200032 23 0 1 200001 13 0 1 200008 1 0 1",
     "199970 1 0 1 199975 4 0 1 199985 1 0 1 199978 2 11 2 200001 2 0 1 199946 1 0 1",
     "199952 3 0 1 199940 1 0 1 199936 2 0 1 200001 2 0 1 199993 1 0 1 200001 3 2 1 199870",
     "1 15 1 200080 1 31 1 200032 49 16 2 200001 10 26 2 200001 2 0 1 200015 1 6 2 200001",
     "3 47 2 200001 3 37 1 200048 2890 37 1 207264 2 0 1 207264 6 0 1 207264 811 5 1",
     "199992 2179 0 1 193778 1 0 1 193779 1 0 1 193788 1 1 1 193790 1 0 1 193789 1 0 1",
     "193796 1 0 1 193820 1 0 1 235267 1 0 1 200001 7 42 1 196992 3 2 1 196992 321 74 2",
     "200001 7 0 1 199942 3 0 1 192385 2 47 2 200001 10 7 1 199992 9 5 1 199992 11 7 1",
     "199992 9 7 1 199992 9 5 1 199992 12 3 2 199992 9 7 1 199992 25 7 1 199992 9 7 1",
     "199992 9 7 1 199992 9 1 1 199992 1 1 1 199926 1 0 1 199991 2 0 1 192827 10 3 1",
     "199914 1 0 1 199991 7 0 1 192765 5 1 1 199992 1 1 1 199900 8 0 1 192781 5 1 1 199992",
     "1 1 1 199888 1 0 1 199993 12 1 1 199872 1 1 1 199874 1 0 1 199991 298 0 1 192483 4 0",
     "1 191617 1 0 1 191738 7 0 1 200028 46 15 1 200016 20 0 1 200001 819 25 1 200026 1841",
     "47 1 200048 49 0 1 200001 2 0 1 189257 1 0 1 196186 1 0 1 189273 3 2 2 200001 2 0 1",
     "189220 1 0 1 189251 1 0 1 189217 1 0 1 189218 2 0 1 200001 3 0 1 200001 9 1 1 189185",
     "1 49 2 200001 9 1 2 200001 5 0 1 200001 31054 22 2 200001 20 13 2 200001 136 6 2",
     "200001 4 30 2 200001 11 1 2 200001 2 0 1 164668 1 4 2 200001 5 0 1 200001 2 0 1",
     "157720 3 1 2 200001 4 9 2 200001 2 0 1 157692 1 0 1 157681 1 0 1 157685 1 0 1 157695",
     "1 0 1 157692 2 0 1 157742 1 0 1 157718 1 0 1 157739 1 0 1 200928 1 7 2 200001 2 0 1",
     "199952 1 0 1 157693 1 0 1 164616 1 1 2 200001 2 0 1 157657 1 0 1 200001 4 0 1 200001",
     "6 2 2 200001 2 0 1 157439 25 0 1 200001 891 79 1 161136 20294 0 1 200001 1052 25 1",
     "200032 1222 39 1 200040 137 35 1 200040 157 10 1 200039 2 14 1 200039 2 6 1 200039 2",
     "1 1 200039 1771 50 1 200064 158 21 1 200032 2875 31 1 200032 21889 31 1 200032 31393",
     "33 1 200034"]

/-- The characters that simple case folding changes, each with its image. -/
def foldPairs : List (Nat × Nat) :=
  foldRuns.flatMap CaseRun.pairs

/-- The set with all variants of its members: their images, and whatever has an image
that is then among them. -/
def closeCase (set : CharacterSet) : CharacterSet :=
  let images := (foldPairs.filter fun pair => set.containsCode pair.1).map (·.2)
  let folded := set.union (.ofCodes images)
  let sources := (foldPairs.filter fun pair => folded.containsCode pair.2).map (·.1)
  folded.union (.ofCodes sources)

/-! ## ASCII letters -/

/-- The distance between an ASCII capital letter and its small letter. -/
def asciiCaseDistance : Nat := 32

/-- The set with the other case of those of its members that are ASCII letters. -/
def closeAsciiCase (set : CharacterSet) : CharacterSet :=
  let capitals := set.intersection (.range 'A' 'Z')
  let small := set.intersection (.range 'a' 'z')
  .unionAll
    [set,
      ⟨capitals.ranges.map fun range =>
        ⟨range.first + asciiCaseDistance, range.last + asciiCaseDistance⟩⟩,
      ⟨small.ranges.map fun range =>
        ⟨range.first - asciiCaseDistance, range.last - asciiCaseDistance⟩⟩]

end Assessment.Text
