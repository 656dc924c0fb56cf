import Assessment.Text.CaseRun

/-!
# Lower case

Comparisons that ignore case compare the lower-case forms of both texts.  The
lower-case form is the full mapping of Unicode's version 17: a capital I with a dot
above becomes two characters, and a capital sigma at the end of a word becomes a final
sigma.
-/

namespace Assessment.Text

/-- The characters with Unicode's `Cased` property. -/
def cased : CharacterSet :=
  .ofGaps
    ["65 25 7 25 48 0 11 0 5 0 6 22 2 30 2 194 2 3 5 207 3 34 8 1 31 4 97 0 43 3 3 1 3 3 2",
     "0 7 0 2 2 2 0 2 19 2 82 2 138 9 165 2 37 10 40 2840 37 2 0 6 0 3 42 2 3 673 85 3 5",
     "2179 10 6 42 3 2 65 191 65 277 3 5 3 37 3 5 3 7 2 0 2 0 2 0 2 30 3 52 2 6 2 0 4 2 2",
     "6 4 3 3 5 5 12 6 2 2 6 117 0 14 0 17 12 102 0 5 0 3 9 2 0 4 4 7 0 2 0 2 0 2 3 2 5 5",
     "0 3 3 6 4 5 0 18 31 4 1 818 51 1815 228 7 3 4 1 13 37 2 0 6 0 30995 45 19 29 133 101",
     "4 3 2 76 21 5 2 2 822 42 2 13 7 79 20289 6 13 4 1034 25 7 25 1190 79 97 35 5 35 117",
     "10 2 14 2 6 2 1 2 10 2 14 2 6 2 1 452 0 3 2 2 41 2 8 1222 50 14 50 94 21 11 21 2843",
     "63 21857 63 33 24 3 24 25901 84 2 70 2 1 3 0 3 1 3 3 2 11 2 0 2 6 2 64 2 3 3 7 2 6 2",
     "27 2 3 2 4 2 0 4 6 2 339 3 24 2 24 2 30 2 24 2 30 2 24 2 30 2 24 2 30 2 24 2 7 1845",
     "9 2 19 7 5 262 61 2195 67 2029 25 7 25 7 25"]

/-- The characters with Unicode's `Case_Ignorable` property. -/
def caseIgnorable : CharacterSet :=
  .ofGaps
    ["39 0 7 0 12 0 36 0 2 0 72 0 5 0 2 0 5 0 3 1 504 191 5 1 5 0 10 1 2 0 252 6 208 0 6 0",
     "50 44 2 0 2 1 2 1 2 0 45 0 12 5 11 10 2 0 36 0 11 20 17 0 102 7 2 9 2 3 34 0 2 0 31",
     "26 92 10 59 10 5 0 3 0 25 23 44 2 45 0 8 1 6 8 42 57 56 0 2 0 5 7 5 0 4 6 11 1 14 0",
     "16 0 59 0 5 3 9 0 21 1 27 0 3 1 58 0 5 1 5 1 3 2 4 0 31 1 4 0 12 1 58 0 5 4 2 1 5 0",
     "21 1 23 5 2 0 59 0 3 0 2 3 9 0 8 1 12 1 31 0 62 0 13 0 51 0 4 0 56 0 2 2 6 2 2 3 8 1",
     "12 1 30 0 59 0 3 0 7 0 6 1 21 1 29 1 58 1 5 3 9 0 21 1 30 0 73 0 8 2 2 0 91 0 3 6 12",
     "8 99 0 3 8 10 0 2 6 74 1 28 0 2 0 2 0 56 13 2 4 2 1 6 10 2 35 10 0 103 3 2 5 2 1 3 1",
     "26 1 5 2 17 3 14 0 3 1 7 0 16 0 95 0 609 2 947 2 30 1 31 1 31 1 65 1 2 6 9 0 3 10 4",
     "0 6 0 46 4 52 0 66 1 35 0 119 2 5 1 10 0 7 2 220 1 3 0 59 0 2 6 2 0 2 0 3 7 7 9 3 0",
     "40 0 9 45 3 11 21 3 49 0 2 4 2 0 6 0 41 8 13 1 33 3 3 1 2 2 57 0 2 1 4 0 2 2 59 7 3",
     "1 65 5 83 2 2 12 2 6 5 0 7 0 4 1 51 62 14 0 35 100 446 0 2 2 12 2 14 2 14 2 14 1 13",
     "4 9 1 11 0 3 0 3 4 50 4 2 9 2 0 14 0 17 12 52 32 2956 1 114 2 126 0 16 0 97 31 48 0",
     "470 0 37 3 4 4 6 0 94 5 94 2 28439 0 1251 5 271 0 99 3 2 9 2 0 29 3 81 1 15 33 79 0",
     "24 2 103 3 4 1 9 0 4 0 5 0 26 1 6 0 152 1 27 17 14 0 39 7 26 10 47 2 49 0 3 3 3 1 18",
     "0 22 1 67 5 3 1 3 1 13 0 9 0 36 0 12 0 52 0 2 2 3 1 6 1 2 0 28 0 15 1 6 1 2 0 101 4",
     "10 2 122 0 3 0 5 0 20273 0 148 16 574 15 4 0 13 15 35 0 3 0 170 0 8 0 7 0 12 0 36 0",
     "2 0 48 0 46 1 68 0 22 2 514 0 227 0 150 4 1030 5 2 41 2 8 583 2 2 1 6 3 41 2 5 0 166",
     "1 574 3 39 0 27 4 2 0 316 1 25 0 53 5 71 10 50 3 124 0 55 14 42 0 3 1 11 2 50 3 3 1",
     "3 0 5 0 11 0 51 2 37 4 2 7 63 0 13 1 53 8 11 3 3 0 96 2 3 0 2 1 7 0 3 0 158 0 4 7 22",
     "1 58 1 4 0 38 6 4 4 71 5 14 0 2 0 2 0 15 1 86 7 3 2 2 0 24 0 85 5 2 0 5 1 2 1 239 3",
     "7 1 2 1 28 1 86 7 3 0 2 1 107 0 2 0 3 5 2 0 102 0 2 0 3 3 2 4 260 8 2 1 257 1 2 0 5",
     "0 145 3 3 1 5 0 33 9 41 5 3 3 9 0 10 5 3 2 47 12 2 1 199 0 2 2 2 0 202 6 2 5 2 0 83",
     "21 3 6 2 1 2 1 123 5 4 0 2 1 2 6 2 0 73 1 4 0 2 0 66 0 282 1 12 1 53 4 6 0 2 0 24 0",
     "5334 16 7 14 11465 11 4 2 2497 4 60 6 10 3 509 2 41 1 483 0 64 16 65 1 2 1 14 1",
     "16381 3 2 6 2 1 3231 1 2 3 4701 45 3 22 545 2 10 15 3 6 31 3 149 2 1980 54 5 49 9 0",
     "15 0 23 4 2 14 1361 6 2 16 3 6 2 1 2 4 6 61 34 0 161 13 369 0 62 3 508 4 255 1 244 0",
     "3 0 8 1 6 0 10 0 465 6 110 7 2736 4 789506 0 31 95 129 239"]

/-- The characters whose lower-case form is one other character. -/
def lowerRuns : List CaseRun :=
  CaseRun.ofLines
    ["65 25 1 200032 102 22 1 200032 2 6 1 200032 34 23 2 200001 4 2 2 200001 3 7 2 200001",
     "3 22 2 200001 2 0 1 199879 1 2 2 200001 4 0 1 200210 1 1 2 200001 2 0 1 200206 1 0 1",
     "200001 2 1 1 200205 1 0 1 200001 3 0 1 200079 1 0 1 200202 1 0 1 200203 1 0 1 200001",
     "2 0 1 200205 1 0 1 200207 2 0 1 200211 1 0 1 200209 1 0 1 200001 4 0 1 200211 1 0 1",
     "200213 2 0 1 200214 1 2 2 200001 2 0 1 200218 1 0 1 200001 2 0 1 200218 3 0 1 200001",
     "2 0 1 200218 1 0 1 200001 2 1 1 200217 1 1 2 200001 2 0 1 200219 1 0 1 200001 4 0 1",
     "200001 8 0 1 200002 1 0 1 200001 2 0 1 200002 1 0 1 200001 2 0 1 200002 1 8 2 200001",
     "3 8 2 200001 3 0 1 200002 1 1 2 200001 2 0 1 199903 1 0 1 199944 1 19 2 200001 2 0 1",
     "199870 2 8 2 200001 8 0 1 210795 1 0 1 200001 2 0 1 199837 1 0 1 210792 3 0 1 200001",
     "2 0 1 199805 1 0 1 200069 1 0 1 200071 1 4 2 200001 290 1 2 200001 4 0 1 200001 9 0",
     "1 200116 7 0 1 200038 2 2 1 200037 2 0 1 200064 2 1 1 200063 2 16 1 200032 2 8 1",
     "200032 36 0 1 200008 9 11 2 200001 6 0 1 199940 3 0 1 200001 2 0 1 199993 1 0 1",
     "200001 3 2 1 199870 1 15 1 200080 1 31 1 200032 49 16 2 200001 10 26 2 200001 2 0 1",
     "200015 1 6 2 200001 3 47 2 200001 3 37 1 200048 2890 37 1 207264 2 0 1 207264 6 0 1",
     "207264 723 79 1 238864 1 5 1 200008 2196 0 1 200001 7 42 1 196992 3 2 1 196992 321",
     "74 2 200001 10 0 1 192385 2 47 2 200001 10 7 1 199992 9 5 1 199992 11 7 1 199992 9 7",
     "1 199992 9 5 1 199992 12 3 2 199992 9 7 1 199992 25 7 1 199992 9 7 1 199992 9 7 1",
     "199992 9 1 1 199992 1 1 1 199926 1 0 1 199991 12 3 1 199914 1 0 1 199991 12 1 1",
     "199992 1 1 1 199900 13 1 1 199992 1 1 1 199888 1 0 1 199993 12 1 1 199872 1 1 1",
     "199874 1 0 1 199991 298 0 1 192483 4 0 1 191617 1 0 1 191738 7 0 1 200028 46 15 1",
     "200016 20 0 1 200001 819 25 1 200026 1841 47 1 200048 49 0 1 200001 2 0 1 189257 1 0",
     "1 196186 1 0 1 189273 3 2 2 200001 2 0 1 189220 1 0 1 189251 1 0 1 189217 1 0 1",
     "189218 2 0 1 200001 3 0 1 200001 9 1 1 189185 1 49 2 200001 9 1 2 200001 5 0 1",
     "200001 31054 22 2 200001 20 13 2 200001 136 6 2 200001 4 30 2 200001 11 1 2 200001 2",
     "0 1 164668 1 4 2 200001 5 0 1 200001 2 0 1 157720 3 1 2 200001 4 9 2 200001 2 0 1",
     "157692 1 0 1 157681 1 0 1 157685 1 0 1 157695 1 0 1 157692 2 0 1 157742 1 0 1 157718",
     "1 0 1 157739 1 0 1 200928 1 7 2 200001 2 0 1 199952 1 0 1 157693 1 0 1 164616 1 1 2",
     "200001 2 0 1 157657 1 7 2 200001 2 0 1 157439 25 0 1 200001 22316 25 1 200032 1222",
     "39 1 200040 137 35 1 200040 157 10 1 200039 2 14 1 200039 2 6 1 200039 2 1 1 200039",
     "1771 50 1 200064 158 21 1 200032 2875 31 1 200032 21889 31 1 200032 65 24 1 200027",
     "31304 33 1 200034"]

/-- Whether the first character that is not ignorable for case is a cased one. -/
def startsCased (text : List Char) : Bool :=
  match text.dropWhile caseIgnorable.contains with
  | [] => false
  | c :: _ => cased.contains c

/-- The lower-case form of a text that follows the text `before`, which is given
with its last character first. -/
def lowerAfter (before : List Char) : List Char → List Char
  | [] => []
  | c :: rest =>
      let lower :=
        if c == 'Σ' then
          if startsCased before && !startsCased rest then ['ς'] else ['σ']
        else if c == 'İ' then ['i', Char.ofNat 0x307]
        else [CaseRun.image lowerRuns c]
      lower ++ lowerAfter (c :: before) rest

/-- The lower-case form of a text. -/
def lower (text : List Char) : List Char :=
  lowerAfter [] text

end Assessment.Text
