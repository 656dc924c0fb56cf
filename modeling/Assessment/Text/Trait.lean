import Assessment.Text.Category

/-!
# Yes-or-no properties of characters

The properties that a character has or has not, as version 16 of Unicode defines them.
Some are listed, others follow from the general categories and from lists of
exceptions.
-/

namespace Assessment.Text

namespace Trait

/-! ## Listed properties -/

def asciiHexDigit : CharacterSet :=
  ⟨[⟨0x30, 0x39⟩, ⟨0x41, 0x46⟩, ⟨0x61, 0x66⟩]⟩

def bidiControl : CharacterSet :=
  .ofGaps
    ["1564 0 6642 1 27 4 56 3"]

def bidiMirrored : CharacterSet :=
  .ofGaps
    ["40 1 19 0 2 0 29 0 2 0 30 0 2 0 46 0 16 0 3711 3 1886 1 2461 1 11 1 55 1 15 1 178 0",
     "193 3 4 5 4 0 4 1 4 3 2 3 2 0 2 0 5 8 6 0 2 17 6 3 10 1 2 0 2 7 2 31 3 3 6 0 10 1 3",
     "18 6 1 10 4 3 1 5 23 3 15 9 3 21 1 8 1 1086 13 75 0 3 3 2 1 2 2 6 3 6 2 4 13 404 21",
     "3 5 2 13 9 0 8 5 4 0 5 4 2 1 3 4 5 0 2 2 3 1 11 5 3 1 13 18 2 3 3 0 2 0 3 0 2 3 6 1",
     "7 2 25 1 12 1 5 3 2 1 3 1 5 42 3 7 2 39 6 0 2 0 4 4 6 2 5 0 4 4 2 0 257 0 516 3 4 1",
     "2 1 15 1 3 9 44 7 428 9 3 7 52798 5 6 1 163 1 19 0 2 0 29 0 2 0 30 0 2 0 2 1 2 1",
     "55160 0 58 0 58 0 58 0 58 0"]

def changesWhenCasefolded : CharacterSet :=
  .ofGaps
    ["65 25 91 0 11 22 2 7 33 0 2 0 2 0 2 0 2 0 2 0 2 0 2 0 2 0 2 0 2 0 2 0 2 0 2 0 2 0 2",
     "0 2 0 2 0 2 0 2 0 2 0 2 0 2 0 2 0 2 0 2 0 2 0 2 0 3 0 2 0 2 0 2 0 2 0 2 0 2 0 2 0 2",
     "1 2 0 2 0 2 0 2 0 2 0 2 0 2 0 2 0 2 0 2 0 2 0 2 0 2 0 2 0 2 0 2 0 2 0 2 0 2 0 2 0 2",
     "0 2 0 2 1 2 0 2 0 2 0 2 1 2 0 2 1 2 2 3 3 2 1 2 2 4 1 2 1 2 0 2 0 2 1 2 0 3 0 2 1 2",
     "2 2 0 2 1 4 0 8 1 2 1 2 1 2 0 2 0 2 0 2 0 2 0 2 0 2 0 2 0 3 0 2 0 2 0 2 0 2 0 2 0 2",
     "0 2 0 2 0 3 1 2 0 2 2 2 0 2 0 2 0 2 0 2 0 2 0 2 0 2 0 2 0 2 0 2 0 2 0 2 0 2 0 2 0 2",
     "0 2 0 2 0 2 0 2 0 2 0 2 0 2 0 2 0 2 0 2 0 2 0 2 0 2 0 8 1 2 1 3 0 2 3 2 0 2 0 2 0 2",
     "0 247 0 43 0 2 0 4 0 9 0 7 0 2 2 2 0 2 1 2 16 2 8 23 0 13 2 4 1 2 0 2 0 2 0 2 0 2 0",
     "2 0 2 0 2 0 2 0 2 0 2 0 2 0 2 1 3 1 2 0 2 1 3 50 49 0 2 0 2 0 2 0 2 0 2 0 2 0 2 0 2",
     "0 2 0 2 0 2 0 2 0 2 0 2 0 2 0 2 0 10 0 2 0 2 0 2 0 2 0 2 0 2 0 2 0 2 0 2 0 2 0 2 0 2",
     "0 2 0 2 0 2 0 2 0 2 0 2 0 2 0 2 0 2 0 2 0 2 0 2 0 2 0 2 0 2 1 2 0 2 0 2 0 2 0 2 0 2",
     "0 3 0 2 0 2 0 2 0 2 0 2 0 2 0 2 0 2 0 2 0 2 0 2 0 2 0 2 0 2 0 2 0 2 0 2 0 2 0 2 0 2",
     "0 2 0 2 0 2 0 2 0 2 0 2 0 2 0 2 0 2 0 2 0 2 0 2 0 2 0 2 0 2 0 2 0 2 0 2 0 2 0 2 0 2",
     "0 2 0 2 0 2 0 2 0 2 0 2 0 3 37 49 0 2841 37 2 0 6 0 811 5 2179 9 7 42 3 2 321 0 2 0",
     "2 0 2 0 2 0 2 0 2 0 2 0 2 0 2 0 2 0 2 0 2 0 2 0 2 0 2 0 2 0 2 0 2 0 2 0 2 0 2 0 2 0",
     "2 0 2 0 2 0 2 0 2 0 2 0 2 0 2 0 2 0 2 0 2 0 2 0 2 0 2 0 2 0 2 0 2 0 2 0 2 0 2 0 2 0",
     "2 0 2 0 2 0 2 0 2 0 2 0 2 0 2 0 2 0 2 0 2 0 2 0 2 0 2 0 2 0 2 0 2 0 2 0 2 0 2 0 2 0",
     "2 0 2 0 2 0 2 0 2 0 2 0 2 0 2 0 2 0 2 0 6 1 3 0 2 0 2 0 2 0 2 0 2 0 2 0 2 0 2 0 2 0",
     "2 0 2 0 2 0 2 0 2 0 2 0 2 0 2 0 2 0 2 0 2 0 2 0 2 0 2 0 2 0 2 0 2 0 2 0 2 0 2 0 2 0",
     "2 0 2 0 2 0 2 0 2 0 2 0 2 0 2 0 2 0 2 0 2 0 2 0 2 0 2 0 2 0 2 0 2 0 2 0 10 7 9 5 11",
     "7 9 7 9 5 12 0 2 0 2 0 2 0 9 7 17 47 3 2 3 5 6 2 3 5 12 3 13 4 6 2 3 5 298 0 4 1 7 0",
     "46 15 20 0 819 25 1841 47 49 0 2 2 3 0 2 0 2 0 2 3 2 0 3 0 9 2 2 0 2 0 2 0 2 0 2 0 2",
     "0 2 0 2 0 2 0 2 0 2 0 2 0 2 0 2 0 2 0 2 0 2 0 2 0 2 0 2 0 2 0 2 0 2 0 2 0 2 0 2 0 2",
     "0 2 0 2 0 2 0 2 0 2 0 2 0 2 0 2 0 2 0 2 0 2 0 2 0 2 0 2 0 2 0 2 0 2 0 2 0 2 0 2 0 2",
     "0 2 0 9 0 2 0 5 0 31054 0 2 0 2 0 2 0 2 0 2 0 2 0 2 0 2 0 2 0 2 0 2 0 2 0 2 0 2 0 2",
     "0 2 0 2 0 2 0 2 0 2 0 2 0 2 0 20 0 2 0 2 0 2 0 2 0 2 0 2 0 2 0 2 0 2 0 2 0 2 0 2 0 2",
     "0 136 0 2 0 2 0 2 0 2 0 2 0 2 0 4 0 2 0 2 0 2 0 2 0 2 0 2 0 2 0 2 0 2 0 2 0 2 0 2 0",
     "2 0 2 0 2 0 2 0 2 0 2 0 2 0 2 0 2 0 2 0 2 0 2 0 2 0 2 0 2 0 2 0 2 0 2 0 11 0 2 0 2 1",
     "2 0 2 0 2 0 2 0 5 0 2 0 3 0 2 0 4 0 2 0 2 0 2 0 2 0 2 0 2 0 2 0 2 0 2 0 2 4 2 4 2 0",
     "2 0 2 0 2 0 2 0 2 0 2 0 2 3 2 0 2 1 4 0 6 0 2 0 2 0 2 0 25 0 891 79 20289 6 13 4",
     "1034 25 1222 39 137 35 157 10 2 14 2 6 2 1 1771 50 158 21 2875 31 21889 31 31393 33"]

def changesWhenLowercased : CharacterSet :=
  .ofGaps
    ["65 25 102 22 2 6 34 0 2 0 2 0 2 0 2 0 2 0 2 0 2 0 2 0 2 0 2 0 2 0 2 0 2 0 2 0 2 0 2",
     "0 2 0 2 0 2 0 2 0 2 0 2 0 2 0 2 0 2 0 2 0 2 0 3 0 2 0 2 0 2 0 2 0 2 0 2 0 2 0 3 0 2",
     "0 2 0 2 0 2 0 2 0 2 0 2 0 2 0 2 0 2 0 2 0 2 0 2 0 2 0 2 0 2 0 2 0 2 0 2 0 2 0 2 0 2",
     "0 2 1 2 0 2 0 4 1 2 0 2 1 2 2 3 3 2 1 2 2 4 1 2 1 2 0 2 0 2 1 2 0 3 0 2 1 2 2 2 0 2",
     "1 4 0 8 1 2 1 2 1 2 0 2 0 2 0 2 0 2 0 2 0 2 0 2 0 3 0 2 0 2 0 2 0 2 0 2 0 2 0 2 0 2",
     "0 3 1 2 0 2 2 2 0 2 0 2 0 2 0 2 0 2 0 2 0 2 0 2 0 2 0 2 0 2 0 2 0 2 0 2 0 2 0 2 0 2",
     "0 2 0 2 0 2 0 2 0 2 0 2 0 2 0 2 0 2 0 2 0 2 0 8 1 2 1 3 0 2 3 2 0 2 0 2 0 2 0 290 0",
     "2 0 4 0 9 0 7 0 2 2 2 0 2 1 2 16 2 8 36 0 9 0 2 0 2 0 2 0 2 0 2 0 2 0 2 0 2 0 2 0 2",
     "0 2 0 6 0 3 0 2 1 3 50 49 0 2 0 2 0 2 0 2 0 2 0 2 0 2 0 2 0 2 0 2 0 2 0 2 0 2 0 2 0",
     "2 0 2 0 10 0 2 0 2 0 2 0 2 0 2 0 2 0 2 0 2 0 2 0 2 0 2 0 2 0 2 0 2 0 2 0 2 0 2 0 2 0",
     "2 0 2 0 2 0 2 0 2 0 2 0 2 0 2 0 2 1 2 0 2 0 2 0 2 0 2 0 2 0 3 0 2 0 2 0 2 0 2 0 2 0",
     "2 0 2 0 2 0 2 0 2 0 2 0 2 0 2 0 2 0 2 0 2 0 2 0 2 0 2 0 2 0 2 0 2 0 2 0 2 0 2 0 2 0",
     "2 0 2 0 2 0 2 0 2 0 2 0 2 0 2 0 2 0 2 0 2 0 2 0 2 0 2 0 2 0 2 0 2 0 2 0 2 0 2 0 2 0",
     "3 37 2890 37 2 0 6 0 723 85 2196 0 7 42 3 2 321 0 2 0 2 0 2 0 2 0 2 0 2 0 2 0 2 0 2",
     "0 2 0 2 0 2 0 2 0 2 0 2 0 2 0 2 0 2 0 2 0 2 0 2 0 2 0 2 0 2 0 2 0 2 0 2 0 2 0 2 0 2",
     "0 2 0 2 0 2 0 2 0 2 0 2 0 2 0 2 0 2 0 2 0 2 0 2 0 2 0 2 0 2 0 2 0 2 0 2 0 2 0 2 0 2",
     "0 2 0 2 0 2 0 2 0 2 0 2 0 2 0 2 0 2 0 2 0 2 0 2 0 2 0 2 0 2 0 2 0 2 0 2 0 2 0 2 0 2",
     "0 2 0 2 0 10 0 2 0 2 0 2 0 2 0 2 0 2 0 2 0 2 0 2 0 2 0 2 0 2 0 2 0 2 0 2 0 2 0 2 0 2",
     "0 2 0 2 0 2 0 2 0 2 0 2 0 2 0 2 0 2 0 2 0 2 0 2 0 2 0 2 0 2 0 2 0 2 0 2 0 2 0 2 0 2",
     "0 2 0 2 0 2 0 2 0 2 0 2 0 2 0 2 0 2 0 10 7 9 5 11 7 9 7 9 5 12 0 2 0 2 0 2 0 9 7 25",
     "7 9 7 9 7 9 4 12 4 12 3 13 4 12 4 298 0 4 1 7 0 46 15 20 0 819 25 1841 47 49 0 2 2 3",
     "0 2 0 2 0 2 3 2 0 3 0 9 2 2 0 2 0 2 0 2 0 2 0 2 0 2 0 2 0 2 0 2 0 2 0 2 0 2 0 2 0 2",
     "0 2 0 2 0 2 0 2 0 2 0 2 0 2 0 2 0 2 0 2 0 2 0 2 0 2 0 2 0 2 0 2 0 2 0 2 0 2 0 2 0 2",
     "0 2 0 2 0 2 0 2 0 2 0 2 0 2 0 2 0 2 0 2 0 2 0 2 0 2 0 9 0 2 0 5 0 31054 0 2 0 2 0 2",
     "0 2 0 2 0 2 0 2 0 2 0 2 0 2 0 2 0 2 0 2 0 2 0 2 0 2 0 2 0 2 0 2 0 2 0 2 0 2 0 20 0 2",
     "0 2 0 2 0 2 0 2 0 2 0 2 0 2 0 2 0 2 0 2 0 2 0 2 0 136 0 2 0 2 0 2 0 2 0 2 0 2 0 4 0",
     "2 0 2 0 2 0 2 0 2 0 2 0 2 0 2 0 2 0 2 0 2 0 2 0 2 0 2 0 2 0 2 0 2 0 2 0 2 0 2 0 2 0",
     "2 0 2 0 2 0 2 0 2 0 2 0 2 0 2 0 2 0 11 0 2 0 2 1 2 0 2 0 2 0 2 0 5 0 2 0 3 0 2 0 4 0",
     "2 0 2 0 2 0 2 0 2 0 2 0 2 0 2 0 2 0 2 4 2 4 2 0 2 0 2 0 2 0 2 0 2 0 2 0 2 3 2 0 2 1",
     "4 0 6 0 2 0 2 0 2 0 25 0 22316 25 1222 39 137 35 157 10 2 14 2 6 2 1 1771 50 158 21",
     "2875 31 21889 31 31393 33"]

def changesWhenTitlecased : CharacterSet :=
  .ofGaps
    ["97 25 59 0 42 23 2 7 2 0 2 0 2 0 2 0 2 0 2 0 2 0 2 0 2 0 2 0 2 0 2 0 2 0 2 0 2 0 2 0",
     "2 0 2 0 2 0 2 0 2 0 2 0 2 0 2 0 2 0 2 0 2 0 2 0 3 0 2 0 2 0 2 0 2 0 2 0 2 0 2 1 2 0",
     "2 0 2 0 2 0 2 0 2 0 2 0 2 0 2 0 2 0 2 0 2 0 2 0 2 0 2 0 2 0 2 0 2 0 2 0 2 0 2 0 2 0",
     "2 0 3 0 2 0 2 2 3 0 2 0 3 0 4 0 6 0 3 0 4 2 3 0 3 0 2 0 2 0 3 0 5 0 3 0 4 0 2 0 3 0",
     "4 0 2 0 5 0 2 1 2 1 2 0 2 0 2 0 2 0 2 0 2 0 2 0 2 0 2 1 2 0 2 0 2 0 2 0 2 0 2 0 2 0",
     "2 0 2 2 2 0 2 0 4 0 2 0 2 0 2 0 2 0 2 0 2 0 2 0 2 0 2 0 2 0 2 0 2 0 2 0 2 0 2 0 2 0",
     "2 0 2 0 2 0 4 0 2 0 2 0 2 0 2 0 2 0 2 0 2 0 2 0 9 0 3 1 2 0 5 0 2 0 2 0 2 0 2 5 2 1",
     "2 0 2 1 4 1 2 3 2 4 3 0 2 1 3 0 8 0 3 0 2 1 4 5 6 0 11 1 167 0 44 0 2 0 4 0 4 2 19 0",
     "28 34 2 1 4 2 2 0 2 0 2 0 2 0 2 0 2 0 2 0 2 0 2 0 2 0 2 0 2 4 2 0 3 0 3 0 53 47 2 0",
     "2 0 2 0 2 0 2 0 2 0 2 0 2 0 2 0 2 0 2 0 2 0 2 0 2 0 2 0 2 0 2 0 10 0 2 0 2 0 2 0 2 0",
     "2 0 2 0 2 0 2 0 2 0 2 0 2 0 2 0 2 0 2 0 2 0 2 0 2 0 2 0 2 0 2 0 2 0 2 0 2 0 2 0 2 0",
     "2 0 3 0 2 0 2 0 2 0 2 0 2 0 2 1 2 0 2 0 2 0 2 0 2 0 2 0 2 0 2 0 2 0 2 0 2 0 2 0 2 0",
     "2 0 2 0 2 0 2 0 2 0 2 0 2 0 2 0 2 0 2 0 2 0 2 0 2 0 2 0 2 0 2 0 2 0 2 0 2 0 2 0 2 0",
     "2 0 2 0 2 0 2 0 2 0 2 0 2 0 2 0 2 0 2 0 2 0 2 0 2 0 2 0 50 38 3697 5 2179 8 2 0 239",
     "0 4 0 17 0 115 0 2 0 2 0 2 0 2 0 2 0 2 0 2 0 2 0 2 0 2 0 2 0 2 0 2 0 2 0 2 0 2 0 2 0",
     "2 0 2 0 2 0 2 0 2 0 2 0 2 0 2 0 2 0 2 0 2 0 2 0 2 0 2 0 2 0 2 0 2 0 2 0 2 0 2 0 2 0",
     "2 0 2 0 2 0 2 0 2 0 2 0 2 0 2 0 2 0 2 0 2 0 2 0 2 0 2 0 2 0 2 0 2 0 2 0 2 0 2 0 2 0",
     "2 0 2 0 2 0 2 0 2 0 2 0 2 0 2 0 2 0 2 0 2 0 2 0 2 0 2 0 2 6 6 0 2 0 2 0 2 0 2 0 2 0",
     "2 0 2 0 2 0 2 0 2 0 2 0 2 0 2 0 2 0 2 0 2 0 2 0 2 0 2 0 2 0 2 0 2 0 2 0 2 0 2 0 2 0",
     "2 0 2 0 2 0 2 0 2 0 2 0 2 0 2 0 2 0 2 0 2 0 2 0 2 0 2 0 2 0 2 0 2 0 2 0 2 0 2 0 2 8",
     "9 5 11 7 9 7 9 5 11 7 9 7 9 13 3 7 9 7 9 7 9 4 2 1 7 0 4 2 2 1 9 3 3 1 9 7 11 2 2 1",
     "343 0 34 15 5 0 844 25 1863 47 2 0 4 1 2 0 2 0 2 0 7 0 3 0 11 0 2 0 2 0 2 0 2 0 2 0",
     "2 0 2 0 2 0 2 0 2 0 2 0 2 0 2 0 2 0 2 0 2 0 2 0 2 0 2 0 2 0 2 0 2 0 2 0 2 0 2 0 2 0",
     "2 0 2 0 2 0 2 0 2 0 2 0 2 0 2 0 2 0 2 0 2 0 2 0 2 0 2 0 2 0 2 0 2 0 2 0 2 0 2 0 2 0",
     "2 0 2 0 9 0 2 0 5 0 13 37 2 0 6 0 30996 0 2 0 2 0 2 0 2 0 2 0 2 0 2 0 2 0 2 0 2 0 2",
     "0 2 0 2 0 2 0 2 0 2 0 2 0 2 0 2 0 2 0 2 0 2 0 20 0 2 0 2 0 2 0 2 0 2 0 2 0 2 0 2 0 2",
     "0 2 0 2 0 2 0 2 0 136 0 2 0 2 0 2 0 2 0 2 0 2 0 4 0 2 0 2 0 2 0 2 0 2 0 2 0 2 0 2 0",
     "2 0 2 0 2 0 2 0 2 0 2 0 2 0 2 0 2 0 2 0 2 0 2 0 2 0 2 0 2 0 2 0 2 0 2 0 2 0 2 0 2 0",
     "2 0 11 0 2 0 3 0 2 0 2 0 2 0 2 0 5 0 5 0 2 1 3 0 2 0 2 0 2 0 2 0 2 0 2 0 2 0 2 0 2 0",
     "12 0 2 0 2 0 2 0 2 0 2 0 2 0 2 0 5 0 2 0 3 0 4 0 6 0 2 0 2 0 27 0 861 0 29 79 20289",
     "6 13 4 1066 25 1230 39 137 35 156 10 2 14 2 6 2 1 1796 50 126 21 2875 31 21889 31",
     "31395 33"]

def changesWhenUppercased : CharacterSet :=
  .ofGaps
    ["97 25 59 0 42 23 2 7 2 0 2 0 2 0 2 0 2 0 2 0 2 0 2 0 2 0 2 0 2 0 2 0 2 0 2 0 2 0 2 0",
     "2 0 2 0 2 0 2 0 2 0 2 0 2 0 2 0 2 0 2 0 2 0 2 0 3 0 2 0 2 0 2 0 2 0 2 0 2 0 2 1 2 0",
     "2 0 2 0 2 0 2 0 2 0 2 0 2 0 2 0 2 0 2 0 2 0 2 0 2 0 2 0 2 0 2 0 2 0 2 0 2 0 2 0 2 0",
     "2 0 3 0 2 0 2 2 3 0 2 0 3 0 4 0 6 0 3 0 4 2 3 0 3 0 2 0 2 0 3 0 5 0 3 0 4 0 2 0 3 0",
     "4 0 2 0 6 1 2 1 2 1 2 0 2 0 2 0 2 0 2 0 2 0 2 0 2 1 2 0 2 0 2 0 2 0 2 0 2 0 2 0 2 0",
     "2 1 2 1 2 0 4 0 2 0 2 0 2 0 2 0 2 0 2 0 2 0 2 0 2 0 2 0 2 0 2 0 2 0 2 0 2 0 2 0 2 0",
     "2 0 2 0 4 0 2 0 2 0 2 0 2 0 2 0 2 0 2 0 2 0 9 0 3 1 2 0 5 0 2 0 2 0 2 0 2 5 2 1 2 0",
     "2 1 4 1 2 3 2 4 3 0 2 1 3 0 8 0 3 0 2 1 4 5 6 0 11 1 167 0 44 0 2 0 4 0 4 2 19 0 28",
     "34 2 1 4 2 2 0 2 0 2 0 2 0 2 0 2 0 2 0 2 0 2 0 2 0 2 0 2 4 2 0 3 0 3 0 53 47 2 0 2 0",
     "2 0 2 0 2 0 2 0 2 0 2 0 2 0 2 0 2 0 2 0 2 0 2 0 2 0 2 0 2 0 10 0 2 0 2 0 2 0 2 0 2 0",
     "2 0 2 0 2 0 2 0 2 0 2 0 2 0 2 0 2 0 2 0 2 0 2 0 2 0 2 0 2 0 2 0 2 0 2 0 2 0 2 0 2 0",
     "3 0 2 0 2 0 2 0 2 0 2 0 2 1 2 0 2 0 2 0 2 0 2 0 2 0 2 0 2 0 2 0 2 0 2 0 2 0 2 0 2 0",
     "2 0 2 0 2 0 2 0 2 0 2 0 2 0 2 0 2 0 2 0 2 0 2 0 2 0 2 0 2 0 2 0 2 0 2 0 2 0 2 0 2 0",
     "2 0 2 0 2 0 2 0 2 0 2 0 2 0 2 0 2 0 2 0 2 0 2 0 2 0 50 38 2889 42 3 2 761 5 2179 8 2",
     "0 239 0 4 0 17 0 115 0 2 0 2 0 2 0 2 0 2 0 2 0 2 0 2 0 2 0 2 0 2 0 2 0 2 0 2 0 2 0 2",
     "0 2 0 2 0 2 0 2 0 2 0 2 0 2 0 2 0 2 0 2 0 2 0 2 0 2 0 2 0 2 0 2 0 2 0 2 0 2 0 2 0 2",
     "0 2 0 2 0 2 0 2 0 2 0 2 0 2 0 2 0 2 0 2 0 2 0 2 0 2 0 2 0 2 0 2 0 2 0 2 0 2 0 2 0 2",
     "0 2 0 2 0 2 0 2 0 2 0 2 0 2 0 2 0 2 0 2 0 2 0 2 0 2 0 2 0 2 0 2 6 6 0 2 0 2 0 2 0 2",
     "0 2 0 2 0 2 0 2 0 2 0 2 0 2 0 2 0 2 0 2 0 2 0 2 0 2 0 2 0 2 0 2 0 2 0 2 0 2 0 2 0 2",
     "0 2 0 2 0 2 0 2 0 2 0 2 0 2 0 2 0 2 0 2 0 2 0 2 0 2 0 2 0 2 0 2 0 2 0 2 0 2 0 2 0 2",
     "0 2 8 9 5 11 7 9 7 9 5 11 7 9 7 9 13 3 52 2 1 5 0 2 0 4 2 2 1 5 0 4 3 3 1 9 7 11 2 2",
     "1 5 0 338 0 34 15 5 0 844 25 1863 47 2 0 4 1 2 0 2 0 2 0 7 0 3 0 11 0 2 0 2 0 2 0 2",
     "0 2 0 2 0 2 0 2 0 2 0 2 0 2 0 2 0 2 0 2 0 2 0 2 0 2 0 2 0 2 0 2 0 2 0 2 0 2 0 2 0 2",
     "0 2 0 2 0 2 0 2 0 2 0 2 0 2 0 2 0 2 0 2 0 2 0 2 0 2 0 2 0 2 0 2 0 2 0 2 0 2 0 2 0 2",
     "0 2 0 2 0 2 0 9 0 2 0 5 0 13 37 2 0 6 0 30996 0 2 0 2 0 2 0 2 0 2 0 2 0 2 0 2 0 2 0",
     "2 0 2 0 2 0 2 0 2 0 2 0 2 0 2 0 2 0 2 0 2 0 2 0 2 0 20 0 2 0 2 0 2 0 2 0 2 0 2 0 2 0",
     "2 0 2 0 2 0 2 0 2 0 2 0 136 0 2 0 2 0 2 0 2 0 2 0 2 0 4 0 2 0 2 0 2 0 2 0 2 0 2 0 2",
     "0 2 0 2 0 2 0 2 0 2 0 2 0 2 0 2 0 2 0 2 0 2 0 2 0 2 0 2 0 2 0 2 0 2 0 2 0 2 0 2 0 2",
     "0 2 0 2 0 11 0 2 0 3 0 2 0 2 0 2 0 2 0 5 0 5 0 2 1 3 0 2 0 2 0 2 0 2 0 2 0 2 0 2 0 2",
     "0 2 0 12 0 2 0 2 0 2 0 2 0 2 0 2 0 2 0 5 0 2 0 3 0 4 0 6 0 2 0 2 0 27 0 861 0 29 79",
     "20289 6 13 4 1066 25 1230 39 137 35 156 10 2 14 2 6 2 1 1796 50 126 21 2875 31 21889",
     "31 31395 33"]

def dash : CharacterSet :=
  .ofGaps
    ["45 0 1373 0 52 0 3650 0 1030 0 2058 5 62 0 40 0 16 0 391 0 3077 0 3 0 32 1 5 0 29 0",
     "447 0 20 0 112 0 52625 1 38 0 11 0 170 0 3681 0 319 0"]

def deprecated : CharacterSet :=
  .ofGaps
    ["329 0 1322 0 2308 0 2 0 2090 1 2246 5 698 1 908503 0"]

def diacritic : CharacterSet :=
  .ofGaps
    ["94 0 2 0 72 0 7 0 5 0 3 1 504 158 2 7 6 5 18 1 5 0 10 1 254 4 210 0 56 16 2 26 2 0 2",
     "1 2 0 135 7 5 1 135 1 5 1 4 2 68 26 92 10 59 10 35 1 127 7 42 9 17 27 62 0 17 0 4 3",
     "29 0 75 0 17 0 111 0 17 0 111 0 17 0 48 2 61 0 17 0 8 0 120 0 111 0 17 0 111 0 17 0",
     "110 1 17 0 125 0 112 0 13 5 2 0 108 0 14 4 76 1 28 0 2 0 2 0 5 1 67 2 2 1 63 0 113 0",
     "2 1 41 1 5 4 26 6 2 0 11 1 706 2 949 1 31 0 149 10 10 0 348 2 293 0 21 7 3 0 49 14 3",
     "10 105 0 16 0 39 8 55 1 59 0 12 1 67 1 65 5 83 24 5 0 7 0 3 2 51 62 90 11 38 10 446",
     "0 2 2 12 2 14 2 14 2 14 1 3313 2 318 0 507 5 106 3 96 0 30067 0 13 1 2 0 29 1 83 1",
     "15 33 103 2 110 1 13 0 38 0 152 0 28 17 58 3 37 0 96 0 13 0 37 0 150 2 66 3 52 0 101",
     "4 10 2 129 1 20273 0 770 15 271 0 2 0 48 0 46 1 68 0 765 0 1184 5 2 41 2 8 638 2 5 0",
     "166 1 572 5 39 0 27 4 400 2 71 10 50 3 193 0 42 0 73 1 121 1 63 0 77 0 10 2 105 1",
     "179 1 81 1 17 0 25 6 4 4 90 2 2 1 14 1 96 0 4 0 124 1 252 1 127 0 119 1 116 0 270 1",
     "259 1 5 0 157 0 84 0 19 0 82 0 422 0 259 0 2 1 82 0 426 1 24 0 5357 14 11482 0 2497",
     "4 60 6 565 1 547 16 81 1 16383 3 2 6 2 1 7938 45 3 22 545 2 4 5 9 7 3 6 31 3 3715 61",
     "195 6 376 0 62 3 767 1 737 6 110 2 2 2"]

def emoji : CharacterSet :=
  .ofGaps
    ["35 0 7 0 6 9 112 0 5 0 8078 0 13 0 217 0 23 0 91 5 16 1 368 1 13 0 167 0 26 10 5 2",
     "200 0 232 1 11 0 10 0 59 3 2 4 10 0 3 0 3 1 3 0 5 0 3 0 2 1 3 0 4 0 4 1 9 2 6 0 2 0",
     "6 11 12 1 3 0 2 1 2 0 19 0 3 1 19 5 2 0 2 1 4 1 6 0 3 1 5 1 12 1 6 1 3 0 6 1 2 0 2 1",
     "21 1 6 5 2 3 3 0 5 0 3 0 3 5 2 0 3 0 2 0 2 0 7 0 4 0 7 0 11 1 16 0 3 0 5 0 2 0 5 2 2",
     "0 12 1 49 2 10 0 15 0 15 0 373 1 464 2 20 1 52 0 5 0 1243 0 13 0 602 0 2 0 114027 0",
     "203 0 161 1 13 1 15 0 3 9 76 25 2 1 24 0 21 0 3 8 22 1 175 33 3 111 3 1 2 2 3 82 3 2",
     "2 262 2 62 12 5 2 23 8 1 3 7 13 0 3 3 3 0 5 1 14 1 3 0 9 1 10 0 6 2 13 2 9 2 3 0 2 0",
     "5 0 7 0 4 0 7 85 49 69 6 7 3 2 5 9 4 0 2 1 4 0 3 9 228 11 5 0 284 46 2 9 2 184 113",
     "12 4 9 6 55 8 14 3 10 7 8"]

def emojiComponent : CharacterSet :=
  .ofGaps
    ["35 0 7 0 6 9 8148 0 214 0 56620 0 62423 25 508 4 1457 3 788077 95"]

def emojiModifier : CharacterSet :=
  ⟨[⟨0x1F3FB, 0x1F3FF⟩]⟩

def emojiModifierBase : CharacterSet :=
  .ofGaps
    ["9757 0 220 0 17 3 117880 0 61 2 3 0 3 2 118 1 3 10 22 18 4 0 5 2 2 2 8 0 2 0 25 0",
     "202 1 5 0 22 0 5 1 175 2 4 4 84 0 17 2 10 0 12 0 576 0 3 0 9 7 7 0 10 9 3 2 57 0 62",
     "1 2 1 2 0 18 2 2 12 230 2 43 8"]

def emojiPresentation : CharacterSet :=
  .ofGaps
    ["8986 1 206 3 4 0 3 0 522 1 22 1 51 11 44 0 20 0 14 0 9 1 18 1 6 1 9 0 6 0 22 0 8 1 2",
     "0 5 0 3 0 8 0 5 1 29 0 36 0 2 0 5 2 2 0 62 2 25 0 15 0 860 1 52 0 5 0 115887 0 203 0",
     "191 0 3 9 76 25 2 0 25 0 21 0 3 4 2 2 22 1 175 32 13 8 2 69 2 21 13 42 5 4 13 16 4 0",
     "4 70 2 0 2 186 3 62 14 3 2 23 19 0 27 1 14 0 87 84 49 69 7 0 4 2 3 2 5 3 12 1 8 8",
     "228 11 5 0 284 46 2 9 2 184 113 12 4 9 6 55 8 14 3 10 7 8"]

def extendedPictographic : CharacterSet :=
  .ofGaps
    ["169 0 5 0 8078 0 13 0 217 0 23 0 91 5 16 1 368 1 13 0 96 0 71 0 26 10 5 2 200 0 232",
     "1 11 0 10 0 59 3 2 5 2 11 2 113 11 117 3 10 2 0 2 0 7 0 4 0 7 0 11 1 16 0 3 0 5 0 2",
     "0 5 2 2 0 12 4 46 2 10 0 15 0 15 0 373 1 464 2 20 1 52 0 5 0 1243 0 13 0 602 0 2 0",
     "114023 255 14 2 32 0 61 5 13 1 15 0 3 9 19 56 28 14 11 0 21 0 3 8 2 3 10 433 6 317 9",
     "265 49 127 117 11 86 42 13 3 57 7 11 5 41 7 31 81 13 46 2 9 2 440 257 1021"]

def extender : CharacterSet :=
  .ofGaps
    ["183 0 537 1 879 0 442 0 631 0 138 0 90 0 753 0 128 0 2372 0 57 0 612 0 399 0 69 0",
     "5002 0 44 4 104 1 94 2 28439 0 1527 0 963 0 23 0 138 0 109 0 22 1 21628 0 2065 1",
     "1484 0 28 0 5 0 1224 0 294 0 117 1 499 2 1232 0 20650 1 1181 1 2 0 29017 1 1202 0",
     "853 2"]

def graphemeLink : CharacterSet :=
  .ofGaps
    ["2381 0 128 0 128 0 128 0 128 0 128 0 128 0 128 0 110 1 17 0 125 0 112 0 128 0 202 0",
     "181 1 1754 1 31 0 158 0 654 0 228 0 102 1 71 1 4492 0 31367 0 38 0 152 0 143 0 109 0",
     "310 0 247 0 24146 0 1543 0 42 0 15 0 58 0 122 1 140 0 117 0 181 0 99 0 129 2 114 0",
     "128 0 253 0 128 0 119 0 117 0 270 0 260 1 162 0 84 0 19 0 82 0 422 0 261 1 82 0 426",
     "1 16877 0"]

def hexDigit : CharacterSet :=
  .ofGaps
    ["48 9 8 5 27 5 65194 9 8 5 27 5"]

def hyphen : CharacterSet :=
  .ofGaps
    ["45 0 128 0 1245 0 4732 0 2058 1 3590 0 740 0 52584 0 170 0 88 0"]

def idsBinaryOperator : CharacterSet :=
  ⟨[⟨0x2FF0, 0x2FF1⟩, ⟨0x2FF4, 0x2FFD⟩, ⟨0x31EF, 0x31EF⟩]⟩

def idsTrinaryOperator : CharacterSet :=
  ⟨[⟨0x2FF2, 0x2FF3⟩]⟩

def idsUnaryOperator : CharacterSet :=
  ⟨[⟨0x2FFE, 0x2FFF⟩]⟩

def idCompatMathContinue : CharacterSet :=
  .ofGaps
    ["178 1 6 0 8119 0 4 10 2 14 372 0 5 0 23 0 111779 0 26 0 32 0 26 0 32 0 26 0 32 0 26",
     "0 32 0 26 0"]

def idCompatMathStart : CharacterSet :=
  .ofGaps
    ["8706 0 5 0 23 0 111779 0 26 0 32 0 26 0 32 0 26 0 32 0 26 0 32 0 26 0"]

def ideographic : CharacterSet :=
  .ofGaps
    ["12294 1 26 8 15 2 966 6591 65 20991 22785 365 3 105 29963 0 28 6135 9 1237 42 9 9320",
     "395 19717 42719 33 4153 7 221 3 5761 15 7472 16 621 2467 541 1507 4938 6 4191"]

def joinControl : CharacterSet :=
  ⟨[⟨0x200C, 0x200D⟩]⟩

def logicalOrderException : CharacterSet :=
  .ofGaps
    ["3648 4 124 4 2801 2 3 0 37115 1 3 0 2 1"]

def modifierCombiningMark : CharacterSet :=
  .ofGaps
    ["1620 1 3 0 132 0 7 0 4 1 482 1 2 2 4 0 32 0"]

def noncharacterCodePoint : CharacterSet :=
  .ofGaps
    ["64976 31 527 1 65535 1 65535 1 65535 1 65535 1 65535 1 65535 1 65535 1 65535 1 65535",
     "1 65535 1 65535 1 65535 1 65535 1 65535 1 65535 1 65535 1"]

def otherAlphabetic : CharacterSet :=
  .ofGaps
    ["837 0 30 12 577 13 2 0 2 1 2 1 2 0 73 10 49 12 2 6 17 0 102 6 5 3 3 1 5 0 36 0 31 15",
     "103 10 102 1 4 8 2 2 2 3 107 0 61 11 4 6 7 19 55 1 3 14 2 1 6 2 11 1 30 2 59 6 3 1 3",
     "1 11 0 11 1 30 2 59 4 5 1 3 1 5 0 31 1 4 0 12 2 59 7 2 2 2 1 22 1 23 2 5 2 59 6 3 1",
     "3 1 10 1 11 1 31 0 60 4 4 2 2 2 11 0 41 4 58 6 2 2 2 2 9 1 12 1 30 2 59 6 2 2 2 2 9",
     "1 12 1 16 0 13 3 59 6 2 2 2 2 11 0 11 1 30 2 76 5 2 0 2 7 19 1 62 0 3 6 19 0 100 0 3",
     "5 2 1 17 0 164 18 10 10 2 35 111 11 2 0 3 3 24 3 5 2 2 2 3 6 4 3 14 11 2 0 11 3 1653",
     "1 31 1 31 1 31 1 67 18 189 1 35 0 119 11 5 8 223 4 58 9 3 19 75 1 12 2 50 4 49 14 61",
     "2 31 8 3 1 58 10 51 18 413 33 1730 51 2295 31 30837 7 35 1 355 0 9 0 24 4 89 1 51 15",
     "2 0 58 0 39 4 29 11 46 3 49 11 38 0 68 13 13 0 9 1 46 2 51 0 2 2 3 1 6 0 45 4 6 0",
     "238 7 20276 0 2136 4 1671 2 2 1 6 3 789 3 66 0 322 1 80 0 260 2 54 13 46 1 12 2 46 8",
     "10 0 62 2 37 11 19 1 58 2 49 12 15 1 93 8 3 0 7 0 3 0 158 9 24 3 59 6 3 1 3 1 11 0",
     "11 1 85 8 2 0 3 0 2 3 2 1 104 12 2 2 107 17 238 6 3 6 30 1 83 14 2 0 107 10 104 13",
     "258 12 248 5 2 1 3 1 4 0 2 0 143 6 3 5 5 0 29 9 43 4 2 3 19 10 47 13 408 7 2 6 84 21",
     "2 13 123 5 4 0 2 1 2 2 2 0 4 0 67 4 2 1 2 3 349 3 10 1 2 0 49 6 4 2 16862 16 3617 0",
     "2 54 8 3 94 1 19629 0 9058 6 2 16 3 6 2 1 2 4 101 0 2232 0 2025 25 7 25 7 25"]

def otherDefaultIgnorableCodePoint : CharacterSet :=
  .ofGaps
    ["847 0 3600 1 1620 1 2224 0 4351 0 52796 0 80 8 851976 0 2 29 97 127 241 3599"]

def otherGraphemeExtend : CharacterSet :=
  .ofGaps
    ["2494 0 25 0 359 0 25 0 103 0 25 0 233 0 2 0 5 1 2 1 10 1 104 0 25 0 120 0 16 0 2358",
     "0 31 0 1025 0 6 0 2 0 6 1 102 0 72 1 1049 0 4130 1 31012 0 109 0 21982 1 4641 0 117",
     "0 265 0 15 0 10 0 97 0 10 0 3 0 2 2 6 0 225 0 13 0 242 0 263 0 634 0 13 0 1540 0",
     "20655 1 24948 1 7 5 798382 95"]

def otherIdContinue : CharacterSet :=
  .ofGaps
    ["183 0 720 0 4066 8 1641 0 1586 1 4334 0 52842 0"]

def otherIdStart : CharacterSet :=
  .ofGaps
    ["6277 1 2194 0 22 0 3949 1"]

def otherLowercase : CharacterSet :=
  .ofGaps
    ["170 0 16 0 502 8 8 1 31 4 97 0 53 0 3458 0 3120 62 14 0 35 36 690 0 14 0 17 12 212",
     "15 849 25 1939 1 31263 1 211 0 130 2 4 1 867 3 10 0 23575 0 3 2 2 41 2 8 55414 61"]

def otherMath : CharacterSet :=
  .ofGaps
    ["94 0 882 2 3 0 27 1 3 1 7201 0 28 2 12 0 33 3 25 1 15 1 66 12 5 0 4 1 5 4 19 0 5 0 3",
     "9 2 0 4 4 7 0 4 1 3 1 2 2 2 5 4 3 6 4 76 4 3 3 2 1 2 1 2 0 2 4 3 1 5 1 5 17 3 1 2 0",
     "2 6 2 0 7 1 291 3 169 1 2 0 25 0 18 0 446 1 13 8 6 4 6 1 3 1 4 4 15 0 2 0 3 5 25 1",
     "58 0 2 0 30 3 10 1 343 1 32 9 404 21 64 3 33 1 54372 0 2 0 5 0 212 0 2 0 54466 84 2",
     "70 2 1 3 0 3 1 3 3 2 11 2 0 2 6 2 64 2 3 3 7 2 6 2 27 2 3 2 4 2 0 4 6 2 339 3 24 2",
     "24 2 30 2 24 2 30 2 24 2 30 2 24 2 30 2 24 2 7 3 49 5633 3 2 26 2 1 2 0 3 0 2 9 2 3",
     "2 0 2 0 7 0 5 0 2 0 2 0 2 2 2 1 2 0 3 0 2 0 2 0 2 0 2 0 2 1 2 0 3 3 2 6 2 3 2 3 2 0",
     "2 9 2 16 6 2 2 4 2 16"]

def otherUppercase : CharacterSet :=
  .ofGaps
    ["8544 15 839 25 117857 25 7 25 7 25"]

def patternSyntax : CharacterSet :=
  .ofGaps
    ["33 14 11 6 27 3 2 0 27 3 35 6 2 0 2 1 2 0 2 1 5 0 5 0 4 0 24 0 32 0 7961 23 9 14 3",
     "18 2 9 306 719 161 629 31 1131 513 127 386 2 5 24 16 0 52494 1 262 1"]

def patternWhiteSpace : CharacterSet :=
  .ofGaps
    ["9 4 19 0 101 0 8073 1 25 1"]

def prependedConcatenationMark : CharacterSet :=
  .ofGaps
    ["1536 5 216 0 50 0 385 1 81 0 67547 0 16 0"]

def quotationMark : CharacterSet :=
  .ofGaps
    ["34 0 5 0 132 0 16 0 8029 7 26 1 3592 0 458 3 14 2 52770 3 190 0 5 0 91 1"]

def radical : CharacterSet :=
  ⟨[⟨0x2E80, 0x2E99⟩, ⟨0x2E9B, 0x2EF3⟩, ⟨0x2F00, 0x2FD5⟩]⟩

def regionalIndicator : CharacterSet :=
  ⟨[⟨0x1F1E6, 0x1F1FF⟩]⟩

def sentenceTerminal : CharacterSet :=
  .ofGaps
    ["33 0 13 0 17 0 1354 0 148 2 181 0 44 2 247 0 62 0 2 0 4 1 294 1 1765 1 791 0 5 1 774",
     "0 199 1 158 1 46 0 6 0 315 1 355 3 163 1 11 1 3 1 30 2 188 1 66 1 933 0 24 1 10 2",
     "3248 2 307 0 14 0 23 1 430 0 29949 0 271 1 228 0 4 0 383 1 87 1 96 0 153 1 148 2 145",
     "1 250 0 21031 0 3 1 60 0 4 1 170 0 13 0 17 0 66 0 2805 1 1278 4 45 3 190 1 118 3 128",
     "2 130 1 7 0 17 1 89 1 2 1 109 0 299 1 118 1 374 1 6 14 106 1 250 2 518 0 2 0 252 1",
     "88 1 421 1 693 1 75 1 19242 1 134 0 66 1 12 0 554 1 297 0 19975 0 7657 0"]

def softDotted : CharacterSet :=
  .ofGaps
    ["105 1 197 0 282 0 31 0 53 0 21 0 321 0 99 0 2 0 6410 0 52 0 14 0 4 0 133 0 158 0 422",
     "0 215 1 2867 0 108454 1 51 1 51 1 51 1 51 1 51 1 51 1 51 1 51 1 51 1 51 1 51 1 51 1",
     "2183 0 306 1 27 0"]

def terminalPunctuation : CharacterSet :=
  .ofGaps
    ["33 0 11 0 2 0 12 1 4 0 831 0 9 0 514 0 58 0 73 0 15 0 2 2 181 0 44 10 2 0 236 1 55 5",
     "2 7 32 0 262 1 1269 1 173 0 5 5 312 1 790 7 774 0 125 2 72 1 158 2 4 0 40 3 3 1 315",
     "1 355 3 163 1 11 1 2 2 30 2 188 4 63 1 933 0 24 1 10 2 3248 2 307 0 14 0 5 0 11 0 2",
     "1 4 1 429 1 29948 1 270 2 228 4 383 1 87 1 96 0 152 2 148 2 128 0 17 1 250 0 21031 0",
     "3 1 58 2 2 3 170 0 11 0 2 0 12 1 4 0 66 0 3 0 1083 0 49 0 1159 0 200 0 311 1 153 5",
     "69 5 90 3 953 4 45 3 190 6 113 3 128 2 130 1 7 0 17 1 89 4 109 0 299 1 118 2 13 1",
     "359 3 4 14 106 1 250 2 518 0 2 0 252 1 88 1 5 1 415 2 46 0 646 1 75 1 1324 4 17914 1",
     "134 0 66 2 11 0 554 1 296 1 19975 0 7656 3"]

def unifiedIdeograph : CharacterSet :=
  .ofGaps
    ["13312 6591 65 20991 23055 1 2 0 2 1 11 0 2 0 2 1 3 2 67031 42719 33 4153 7 221 3",
     "5761 15 7472 16 621 4515 4938 6 4191"]

def variationSelector : CharacterSet :=
  .ofGaps
    ["6155 2 2 0 58865 15 852721 239"]

def whiteSpace : CharacterSet :=
  .ofGaps
    ["9 4 19 0 101 0 27 0 5600 0 2432 10 30 1 6 0 48 0 4001 0"]

/-! ## Properties that follow from others -/

def lowercase : CharacterSet :=
  Category.lowercaseLetter.union otherLowercase

def uppercase : CharacterSet :=
  Category.uppercaseLetter.union otherUppercase

def cased : CharacterSet :=
  .unionAll [lowercase, uppercase, Category.titlecaseLetter]

/-- Marks, formats, modifiers, and the characters that do not divide the words within
which they stand. -/
def caseIgnorable : CharacterSet :=
  .unionAll
    [Category.nonspacingMark, Category.enclosingMark, Category.format,
      Category.modifierLetter, Category.modifierSymbol,
      .ofGaps
        ["39 0 7 0 12 0 125 0 720 0 472 0 149 0 6692 1 11 0 3 0 56812 0 63 0 3 0 178 0 7 0",
         "12 0"]]

def changesWhenCasemapped : CharacterSet :=
  .unionAll [changesWhenLowercased, changesWhenUppercased, changesWhenTitlecased]

def alphabetic : CharacterSet :=
  .unionAll
    [lowercase, uppercase, Category.letter, Category.letterNumber, otherAlphabetic]

def math : CharacterSet :=
  Category.mathSymbol.union otherMath

def graphemeExtend : CharacterSet :=
  .unionAll [Category.enclosingMark, Category.nonspacingMark, otherGraphemeExtend]

def graphemeBase : CharacterSet :=
  (CharacterSet.unionAll
    [Category.other, Category.lineSeparator, Category.paragraphSeparator,
      graphemeExtend]).complement

def defaultIgnorableCodePoint : CharacterSet :=
  (CharacterSet.unionAll
    [otherDefaultIgnorableCodePoint, Category.format, variationSelector]).difference
    (.unionAll
      [whiteSpace, prependedConcatenationMark, ⟨[⟨0xFFF9, 0xFFFB⟩]⟩,
        ⟨[⟨0x13430, 0x13440⟩]⟩])

def idStart : CharacterSet :=
  (CharacterSet.unionAll
    [Category.letter, Category.letterNumber, otherIdStart]).difference
    (patternSyntax.union patternWhiteSpace)

def idContinue : CharacterSet :=
  (CharacterSet.unionAll
    [idStart, Category.nonspacingMark, Category.spacingMark, Category.decimalNumber,
      Category.connectorPunctuation, otherIdContinue]).difference
    (patternSyntax.union patternWhiteSpace)

/-- The characters of identifiers that have a normal form which is none. -/
def unstable : CharacterSet :=
  .ofGaps
    ["890 0 11553 1 52162 5 407 1 117 0 2 0 2 0 2 0 2 0 2 0 2 0 2 0"]

/-- The characters that begin identifiers and have a normal form which does not. -/
def unstableStart : CharacterSet :=
  .ofGaps
    ["3635 0 128 0 61675 1"]

/-- The characters that begin an identifier in every normal form. -/
def xidStart : CharacterSet :=
  idStart.difference (unstable.union unstableStart)

/-- The characters that continue an identifier in every normal form. -/
def xidContinue : CharacterSet :=
  idContinue.difference unstable

end Trait

/-- The properties with their names. -/
def traits : List NamedSet :=
  [⟨["ahex", "asciihexdigit"], Trait.asciiHexDigit⟩,
    ⟨["alpha", "alphabetic"], Trait.alphabetic⟩,
    ⟨["bidic", "bidicontrol"], Trait.bidiControl⟩,
    ⟨["bidim", "bidimirrored"], Trait.bidiMirrored⟩,
    ⟨["ci", "caseignorable"], Trait.caseIgnorable⟩,
    ⟨["cased"], Trait.cased⟩,
    ⟨["cwcf", "changeswhencasefolded"], Trait.changesWhenCasefolded⟩,
    ⟨["cwcm", "changeswhencasemapped"], Trait.changesWhenCasemapped⟩,
    ⟨["cwl", "changeswhenlowercased"], Trait.changesWhenLowercased⟩,
    ⟨["cwt", "changeswhentitlecased"], Trait.changesWhenTitlecased⟩,
    ⟨["cwu", "changeswhenuppercased"], Trait.changesWhenUppercased⟩,
    ⟨["dash"], Trait.dash⟩,
    ⟨["di", "defaultignorablecodepoint"], Trait.defaultIgnorableCodePoint⟩,
    ⟨["dep", "deprecated"], Trait.deprecated⟩,
    ⟨["dia", "diacritic"], Trait.diacritic⟩,
    ⟨["emoji"], Trait.emoji⟩,
    ⟨["ecomp", "emojicomponent"], Trait.emojiComponent⟩,
    ⟨["emod", "emojimodifier"], Trait.emojiModifier⟩,
    ⟨["ebase", "emojimodifierbase"], Trait.emojiModifierBase⟩,
    ⟨["epres", "emojipresentation"], Trait.emojiPresentation⟩,
    ⟨["extpict", "extendedpictographic"], Trait.extendedPictographic⟩,
    ⟨["ext", "extender"], Trait.extender⟩,
    ⟨["grbase", "graphemebase"], Trait.graphemeBase⟩,
    ⟨["grext", "graphemeextend"], Trait.graphemeExtend⟩,
    ⟨["grlink", "graphemelink"], Trait.graphemeLink⟩,
    ⟨["hex", "hexdigit"], Trait.hexDigit⟩,
    ⟨["hyphen"], Trait.hyphen⟩,
    ⟨["idsb", "idsbinaryoperator"], Trait.idsBinaryOperator⟩,
    ⟨["idst", "idstrinaryoperator"], Trait.idsTrinaryOperator⟩,
    ⟨["idsu", "idsunaryoperator"], Trait.idsUnaryOperator⟩,
    ⟨["idcompatmathcontinue"], Trait.idCompatMathContinue⟩,
    ⟨["idcompatmathstart"], Trait.idCompatMathStart⟩,
    ⟨["idc", "idcontinue"], Trait.idContinue⟩,
    ⟨["ids", "idstart"], Trait.idStart⟩,
    ⟨["ideo", "ideographic"], Trait.ideographic⟩,
    ⟨["joinc", "joincontrol"], Trait.joinControl⟩,
    ⟨["loe", "logicalorderexception"], Trait.logicalOrderException⟩,
    ⟨["lower", "lowercase"], Trait.lowercase⟩,
    ⟨["math"], Trait.math⟩,
    ⟨["mcm", "modifiercombiningmark"], Trait.modifierCombiningMark⟩,
    ⟨["nchar", "noncharactercodepoint"], Trait.noncharacterCodePoint⟩,
    ⟨["oalpha", "otheralphabetic"], Trait.otherAlphabetic⟩,
    ⟨["odi", "otherdefaultignorablecodepoint"], Trait.otherDefaultIgnorableCodePoint⟩,
    ⟨["ogrext", "othergraphemeextend"], Trait.otherGraphemeExtend⟩,
    ⟨["oidc", "otheridcontinue"], Trait.otherIdContinue⟩,
    ⟨["oids", "otheridstart"], Trait.otherIdStart⟩,
    ⟨["olower", "otherlowercase"], Trait.otherLowercase⟩,
    ⟨["omath", "othermath"], Trait.otherMath⟩,
    ⟨["oupper", "otheruppercase"], Trait.otherUppercase⟩,
    ⟨["patsyn", "patternsyntax"], Trait.patternSyntax⟩,
    ⟨["patws", "patternwhitespace"], Trait.patternWhiteSpace⟩,
    ⟨["pcm", "prependedconcatenationmark"], Trait.prependedConcatenationMark⟩,
    ⟨["qmark", "quotationmark"], Trait.quotationMark⟩,
    ⟨["radical"], Trait.radical⟩,
    ⟨["ri", "regionalindicator"], Trait.regionalIndicator⟩,
    ⟨["sterm", "sentenceterminal"], Trait.sentenceTerminal⟩,
    ⟨["sd", "softdotted"], Trait.softDotted⟩,
    ⟨["term", "terminalpunctuation"], Trait.terminalPunctuation⟩,
    ⟨["uideo", "unifiedideograph"], Trait.unifiedIdeograph⟩,
    ⟨["upper", "uppercase"], Trait.uppercase⟩,
    ⟨["vs", "variationselector"], Trait.variationSelector⟩,
    ⟨["space", "wspace", "whitespace"], Trait.whiteSpace⟩,
    ⟨["xidc", "xidcontinue"], Trait.xidContinue⟩,
    ⟨["xids", "xidstart"], Trait.xidStart⟩]

/-- The characters with a property. -/
def trait? (name : String) : Option CharacterSet :=
  NamedSet.find? name traits

end Assessment.Text
