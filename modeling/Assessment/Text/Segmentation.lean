import Assessment.Text.Property

/-!
# Boundaries in a text

Where a text may be divided into graphemes, words and sentences depends on classes of
characters.  Each of the three divisions has its own classes, here those of version 16
of Unicode.
-/

namespace Assessment.Text

/-! ## Graphemes -/

/-- How many Hangul syllables begin with the same consonant and vowel. -/
def hangulFinals : Nat := 28

/-- The Hangul syllables without a final consonant. -/
def openSyllables : CharacterSet :=
  ⟨(List.range 399).map fun index =>
    let code := 0xAC00 + hangulFinals * index
    ⟨code, code⟩⟩

/-- The Hangul syllables with a final consonant. -/
def closedSyllables : CharacterSet :=
  ⟨(List.range 399).map fun index =>
    let code := 0xAC00 + hangulFinals * index
    ⟨code + 1, code + (hangulFinals - 1)⟩⟩

def graphemeBreaks : List NamedSet :=
  [⟨["cn", "control"], .ofGaps
      ["0 9 2 1 2 17 96 32 14 0 1391 0 4594 0 2045 0 3 1 25 6 50 15 56976 0 241 11 13365",
       "15 34913 3 5328 7 798342 31 97 127 241 3599"]⟩,
    ⟨["cr"], .ofGaps
      ["13 0"]⟩,
    ⟨["ex", "extend"], .ofGaps
      ["768 111 276 6 264 44 2 0 2 1 2 1 2 0 73 10 49 20 17 0 102 6 3 5 3 1 2 3 36 0 31 26",
       "92 10 59 8 10 0 25 3 2 8 2 2 2 4 44 2 60 8 43 23 2 31 56 0 2 0 5 7 5 0 4 6 11 1 30",
       "0 59 0 2 0 3 3 9 0 10 0 11 1 27 0 3 1 58 0 5 1 5 1 3 2 4 0 31 1 4 0 12 1 58 0 5 4",
       "2 1 5 0 21 1 23 5 2 0 59 0 2 1 2 3 9 0 8 2 11 1 31 0 60 0 2 0 13 0 10 0 41 0 4 0",
       "56 0 2 2 6 2 2 3 8 1 12 1 30 0 59 0 3 1 2 0 4 2 2 3 8 1 12 1 29 1 58 1 2 0 3 3 9 0",
       "10 0 11 1 30 0 73 0 5 0 3 2 2 0 9 0 82 0 3 6 13 7 99 0 3 8 12 6 74 1 28 0 2 0 2 0",
       "56 13 2 4 2 1 6 10 2 35 10 0 103 3 2 5 2 1 3 1 26 1 5 2 17 3 14 0 3 1 7 0 16 0 704",
       "2 947 3 29 2 30 1 31 1 65 1 2 6 9 0 3 10 10 0 46 2 2 0 118 1 35 0 119 2 5 1 10 0 7",
       "2 220 1 3 0 59 0 2 6 2 0 2 0 3 7 7 9 3 0 49 30 50 3 49 9 5 2 39 8 13 1 33 3 3 5 57",
       "0 2 1 4 0 2 4 57 7 3 1 153 2 2 12 2 6 5 0 7 0 4 1 199 63 525 0 196 32 3071 2 142 0",
       "97 31 555 5 106 1 30165 3 2 9 33 1 81 1 273 0 4 0 5 0 26 1 6 0 152 1 27 17 14 0 39",
       "7 26 10 2 0 45 2 49 0 3 3 3 1 3 0 37 0 68 5 3 1 3 1 13 0 9 0 48 0 52 0 2 2 3 1 6 1",
       "2 0 43 1 9 0 239 0 3 0 5 0 20273 0 738 15 17 15 367 1 606 0 227 0 150 4 1671 2 2 1",
       "6 3 41 2 5 0 166 1 574 3 66 4 318 1 80 3 71 10 50 3 124 0 55 14 42 0 3 1 11 2 50 3",
       "3 1 8 0 62 2 37 4 2 7 63 0 13 1 53 8 2 0 9 3 3 0 96 2 3 3 7 0 3 0 158 0 4 7 22 1",
       "58 1 2 0 2 0 13 0 10 0 15 6 4 4 68 0 3 5 2 0 3 0 2 2 5 2 2 0 15 1 86 7 3 2 2 0 24",
       "0 82 0 3 5 2 0 3 0 2 1 2 1 236 0 3 3 7 1 2 1 28 1 86 7 3 0 2 1 107 0 2 0 3 7 102 0",
       "2 0 3 3 2 4 260 8 2 1 246 0 11 3 5 0 145 3 3 1 5 0 33 9 41 5 3 3 9 0 10 5 3 2 47",
       "12 2 1 407 6 2 5 2 0 83 21 3 6 2 1 2 1 123 5 4 0 2 1 2 6 2 0 73 1 4 0 2 0 348 1 12",
       "1 53 4 6 2 24 0 5350 0 7 14 11465 11 4 2 2497 4 60 6 1049 0 64 3 82 0 12 1 19628 1",
       "4706 45 3 22 543 4 4 5 9 7 3 6 31 3 149 2 1980 54 5 49 9 0 15 0 23 4 2 14 1361 6 2",
       "16 3 6 2 1 2 4 101 0 161 6 376 0 62 3 509 3 255 1 737 6 110 6 2737 4 789537 95 129",
       "239"]⟩,
    ⟨["l"], .ofGaps
      ["4352 95 38913 28"]⟩,
    ⟨["lf"], .ofGaps
      ["10 0"]⟩,
    ⟨["lv"], openSyllables⟩,
    ⟨["lvt"], closedSyllables⟩,
    ⟨["pp", "prepend"], .ofGaps
      ["1536 5 216 0 50 0 385 1 81 0 1132 0 66415 0 16 0 245 1 526 0 1390 0 2 0 249 0 74 5",
       "701 0 444 0"]⟩,
    ⟨["ri", "regionalindicator"], .ofGaps
      ["127462 25"]⟩,
    ⟨["sm", "spacingmark"], .ofGaps
      ["2307 0 56 0 3 2 9 3 2 1 51 1 60 1 7 1 3 1 55 0 59 2 67 0 59 2 9 0 2 1 54 1 61 0 7",
       "1 3 1 115 0 2 1 4 2 2 2 53 2 62 3 62 1 59 0 3 0 2 1 47 0 15 1 60 1 6 2 2 2 54 1 77",
       "1 7 6 20 1 64 0 128 0 139 1 64 0 178 0 10 1 26 1 45 0 1842 0 8 7 2 1 347 3 3 2 5 1",
       "2 5 225 1 59 0 2 0 22 5 146 0 58 3 65 0 31 0 5 1 64 0 3 2 2 0 54 7 9 1 172 0 22 0",
       "35628 1 3 0 89 1 51 15 143 0 49 0 49 1 5 1 3 1 112 1 3 1 25 0 158 0 3 1 6 0 238 1",
       "2 1 2 1 2 0 25620 0 2 0 128 0 46 2 5 1 116 0 25 1 60 0 49 2 10 0 15 0 94 2 4 1 173",
       "2 32 1 60 0 2 3 3 1 3 1 22 1 86 1 16 0 2 1 104 2 9 1 4 0 108 1 7 0 2 1 2 0 3 0 239",
       "1 7 3 3 0 114 2 9 1 2 0 110 0 2 1 111 0 8 0 262 2 10 0 249 4 2 1 8 0 2 0 143 2 9 3",
       "5 0 85 0 30 1 63 0 408 0 15 0 107 0 8 0 3 0 214 4 5 1 2 0 351 1 13 0 49 1 9 1",
       "16875 2 3621 54"]⟩,
    ⟨["t"], .ofGaps
      ["4520 87 50636 48"]⟩,
    ⟨["v"], .ofGaps
      ["4448 71 50697 22 38301 0 4 3"]⟩,
    ⟨["zwj"], .ofGaps
      ["8205 0"]⟩]

/-- A class of characters at the boundaries of graphemes. -/
def graphemeBreak? (name : String) : Option CharacterSet :=
  NamedSet.find? name graphemeBreaks

/-! ## Words -/

def wordBreaks : List NamedSet :=
  [⟨["cr"], .ofGaps
      ["13 0"]⟩,
    ⟨["dq", "doublequote"], .ofGaps
      ["34 0"]⟩,
    ⟨["ex", "extendnumlet"], .ofGaps
      ["95 0 8144 0 16 1 20 0 56799 1 25 2 240 0"]⟩,
    ⟨["extend"], .ofGaps
      ["768 111 276 6 264 44 2 0 2 1 2 1 2 0 73 10 49 20 17 0 102 6 3 5 3 1 2 3 36 0 31 26",
       "92 10 59 8 10 0 25 3 2 8 2 2 2 4 44 2 60 8 43 23 2 32 55 2 2 17 2 6 11 1 30 2 57 0",
       "2 6 3 1 3 2 10 0 11 1 27 0 3 2 57 0 2 4 5 1 3 2 4 0 31 1 4 0 12 2 57 0 2 7 2 2 2 2",
       "21 1 23 5 2 2 57 0 2 6 3 1 3 2 8 2 11 1 31 0 60 4 4 2 2 3 10 0 41 4 56 0 2 6 2 2 2",
       "3 8 1 12 1 30 2 57 0 2 6 2 2 2 3 8 1 12 1 16 0 13 3 56 1 2 6 2 2 2 3 10 0 11 1 30",
       "2 71 0 5 5 2 0 2 7 19 1 62 0 3 6 13 7 99 0 3 8 12 6 74 1 28 0 2 0 2 0 5 1 50 19 2",
       "1 6 10 2 35 10 0 101 19 24 3 5 2 2 2 3 6 4 3 14 11 2 0 11 3 704 2 947 3 29 2 30 1",
       "31 1 65 31 10 0 46 2 2 0 118 1 35 0 119 11 5 11 220 4 58 9 2 28 3 0 49 30 50 4 48",
       "16 39 8 13 2 31 12 57 13 49 19 153 2 2 20 5 0 7 0 3 2 199 63 525 0 196 32 3071 2",
       "142 0 97 31 555 5 106 1 30165 3 2 9 33 1 81 1 273 0 4 0 5 0 24 4 5 0 84 1 51 17 27",
       "17 14 0 39 7 26 12 45 3 48 13 37 0 68 13 13 0 9 1 46 2 51 0 2 2 3 1 6 1 2 0 42 4 6",
       "1 237 7 2 1 20273 0 738 15 17 15 367 1 606 0 227 0 150 4 1671 2 2 1 6 3 41 2 5 0",
       "166 1 574 3 66 4 318 1 80 3 71 10 50 3 123 2 54 14 42 0 3 1 11 3 46 10 8 0 62 2 37",
       "13 17 1 45 0 13 2 49 13 9 3 2 1 93 11 7 0 3 0 158 11 22 3 56 1 2 6 3 1 3 2 10 0 11",
       "1 3 6 4 4 68 8 2 0 3 0 2 3 2 4 2 0 15 1 83 17 24 0 82 19 236 6 3 8 28 1 83 16 107",
       "12 102 14 257 14 246 5 2 1 3 3 2 0 2 1 142 6 3 6 4 0 29 9 41 6 2 3 9 0 10 10 47 15",
       "406 7 2 7 83 21 2 13 123 5 4 0 2 1 2 6 2 0 67 4 2 1 2 4 348 3 10 1 2 0 49 6 4 4 24",
       "0 5350 0 7 14 11465 17 2497 4 60 6 1049 0 2 54 8 3 82 0 12 1 19628 1 4706 45 3 22",
       "543 4 4 5 9 7 3 6 31 3 149 2 1980 54 5 49 9 0 15 0 23 4 2 14 1361 6 2 16 3 6 2 1 2",
       "4 101 0 161 6 376 0 62 3 509 3 255 1 737 6 110 6 2737 4 789537 95 129 239"]⟩,
    ⟨["fo", "format"], .ofGaps
      ["173 0 1391 0 4594 0 2048 1 27 4 50 4 2 9 56976 0 250 2 13365 15 34913 3 5328 7",
       "798343 0"]⟩,
    ⟨["hl", "hebrewletter"], .ofGaps
      ["1488 26 5 3 62763 0 2 9 2 12 2 4 2 0 2 1 2 1 2 9"]⟩,
    ⟨["ka", "katakana"], .ofGaps
      ["12337 4 102 1 4 90 2 3 241 15 209 46 2 87 52239 55 45139 3 2 6 2 1 2 0 288 2 51 0",
       "15 3"]⟩,
    ⟨["le", "aletter"], .ofGaps
      ["65 25 7 25 48 0 11 0 5 0 6 22 2 30 2 479 7 33 113 4 2 1 3 3 2 0 7 0 2 2 2 0 2 19 2",
       "82 2 138 9 165 2 37 3 3 2 0 2 40 2 0 105 0 45 42 36 1 2 98 2 0 16 1 8 1 11 2 3 0",
       "16 1 2 29 30 88 12 0 25 32 10 1 5 0 6 21 5 0 10 0 4 0 24 24 8 10 6 23 2 5 18 41 59",
       "53 4 0 19 0 8 9 16 15 5 7 3 1 3 21 2 6 2 0 4 3 4 0 17 0 14 1 2 2 15 1 11 0 9 5 5 1",
       "3 21 2 6 2 1 2 1 2 1 32 3 2 0 20 2 17 8 2 2 2 21 2 6 2 1 2 4 4 0 19 0 16 1 24 0 12",
       "7 3 1 3 21 2 6 2 1 2 4 4 0 31 1 2 2 16 0 18 0 2 5 4 2 2 3 4 1 2 0 2 1 4 1 4 2 4 11",
       "23 0 53 7 2 2 2 22 2 15 4 0 27 2 3 0 3 1 31 0 5 7 2 2 2 22 2 9 2 4 4 0 32 1 2 1 16",
       "1 18 8 2 2 2 40 3 0 17 0 6 2 9 2 25 5 6 17 4 23 2 8 2 0 3 6 314 0 64 7 2 35 28 4",
       "276 37 2 0 6 0 3 42 2 332 2 3 3 6 2 0 2 3 3 40 2 3 3 32 2 3 3 6 2 0 2 3 3 14 2 56",
       "2 3 3 66 38 15 17 85 3 5 4 619 3 16 2 25 6 74 4 10 8 17 14 18 15 17 15 12 2 2 176",
       "88 8 4 3 33 2 0 6 69 11 30 226 22 239 46 18 7 55 29 14 1 11 43 27 35 42 2 11 35 3",
       "10 6 42 3 2 42 3 2 5 2 1 4 0 6 191 65 277 3 5 3 37 3 5 3 7 2 0 2 0 2 0 2 30 3 52 2",
       "6 2 0 4 2 2 6 4 3 3 5 5 12 6 2 2 6 117 0 14 0 17 12 102 0 5 0 3 9 2 0 4 4 7 0 2 0",
       "2 0 2 3 2 10 3 3 6 4 5 0 18 40 814 51 1815 228 7 3 4 1 13 37 2 0 6 0 3 55 8 0 17",
       "22 10 6 2 6 2 6 2 6 2 6 2 6 2 6 2 6 81 0 470 0 54 1 201 42 2 93 18 31 28225 1164",
       "68 45 3 268 4 15 11 1 21 46 17 30 3 79 25 197 3 1 2 0 2 7 22 15 2 2 2 3 2 22 30 51",
       "15 49 63 5 4 0 2 1 12 27 11 22 26 28 8 46 29 0 49 40 24 2 2 7 149 10 8 2 13 5 3 5",
       "3 5 10 6 2 6 2 57 7 114 30 11171 13 22 5 48 8965 6 13 4 57 97 34 362 19 63 3 53 41",
       "11 117 4 2 134 37 25 7 25 70 30 4 5 3 5 3 5 3 2 36 11 2 25 2 18 2 1 2 14 3 13 35",
       "122 70 52 268 28 4 48 48 31 14 29 6 37 11 29 3 35 5 7 2 4 43 157 19 35 5 35 5 39 9",
       "51 13 10 2 14 2 6 2 1 2 10 2 14 2 6 2 1 4 51 13 310 10 21 11 7 25 5 2 41 2 8 70 5",
       "3 0 2 43 2 1 4 0 3 22 11 22 10 30 66 18 2 1 11 21 11 25 71 55 7 1 65 0 16 3 2 2 2",
       "28 43 28 4 28 36 7 2 27 28 53 11 21 11 18 14 17 111 72 56 50 14 50 14 35 39 27 10",
       "22 251 41 7 1 17 2 60 28 11 0 9 21 43 17 47 20 28 22 13 52 58 1 3 0 14 44 33 24 27",
       "35 30 0 3 0 9 34 4 0 13 47 15 3 22 0 2 0 36 17 2 24 20 1 64 6 2 0 2 3 2 14 2 9 8",
       "46 39 7 3 1 3 21 2 6 2 1 2 4 4 0 19 0 13 4 31 9 2 0 3 0 2 37 2 0 26 0 2 0 45 52 19",
       "3 21 2 31 47 21 1 2 0 185 46 42 3 37 47 21 0 60 42 14 0 328 43 117 63 32 7 3 0 3 7",
       "2 1 2 23 16 0 2 0 95 7 3 38 17 0 2 0 29 0 11 39 8 0 22 0 12 45 20 0 19 72 200 32",
       "32 8 2 36 18 0 50 29 113 6 2 1 2 37 22 0 26 5 2 1 2 31 15 0 328 18 16 0 2 12 2 33",
       "125 0 80 921 103 110 18 195 2637 96 16 1071 18 5 26 3994 6 582 6842 29 1763 568 8",
       "30 18 78 18 29 19 47 17 3 32 20 6 18 433 44 212 63 129 74 6 0 67 12 65 1 2 0 19485",
       "106 6 12 4 8 8 9 5991 84 2 70 2 1 3 0 3 1 3 3 2 11 2 0 2 6 2 64 2 3 3 7 2 6 2 27 2",
       "3 2 4 2 0 4 6 2 339 3 24 2 24 2 30 2 24 2 30 2 24 2 30 2 24 2 30 2 24 2 7 1845 30",
       "7 5 262 61 147 44 11 6 17 0 322 29 19 43 485 27 229 29 3 0 496 6 2 3 2 1 2 14 2",
       "196 60 67 8 0 1205 3 2 26 2 1 2 0 3 0 2 9 2 3 2 0 2 0 7 0 5 0 2 0 2 0 2 2 2 1 2 0",
       "3 0 2 0 2 0 2 0 2 0 2 1 2 0 3 3 2 6 2 3 2 3 2 0 2 9 2 16 6 2 2 4 2 16 629 25 7 25",
       "7 25"]⟩,
    ⟨["lf"], .ofGaps
      ["10 0"]⟩,
    ⟨["mb", "midnumlet"], .ofGaps
      ["46 0 8170 1 11 0 56878 0 181 0 7 0"]⟩,
    ⟨["ml", "midletter"], .ofGaps
      ["58 0 125 0 720 0 472 0 149 0 6707 0 56812 0 66 0 197 0"]⟩,
    ⟨["mn", "midnum"], .ofGaps
      ["44 0 15 0 835 0 523 0 131 1 95 0 396 0 6220 0 56844 0 4 0 184 0 15 0"]⟩,
    ⟨["nl", "newline"], .ofGaps
      ["11 1 121 0 8099 1"]⟩,
    ⟨["nu", "numeric"], .ofGaps
      ["48 9 1479 5 91 9 2 0 114 0 19 9 199 9 199 1 81 0 132 9 119 9 119 9 119 9 119 9 119",
       "9 119 9 119 9 119 9 119 9 97 9 119 9 71 9 279 9 71 9 1863 9 39 9 301 9 129 10 166",
       "9 7 9 183 9 87 9 135 9 7 9 35271 9 679 9 39 9 199 9 23 9 87 9 407 9 21271 9 1415 9",
       "2183 9 7 9 797 9 78 0 16 0 35 9 61 9 145 9 279 9 343 9 119 9 375 9 103 9 7 19 77 9",
       "423 9 103 9 663 9 87 9 247 9 71 9 423 9 16855 9 2343 9 87 9 135 9 535 9 24439 9",
       "2773 49 2369 9 423 9 503 9 248 9 854 9 4759 9"]⟩,
    ⟨["ri", "regionalindicator"], .ofGaps
      ["127462 25"]⟩,
    ⟨["sq", "singlequote"], .ofGaps
      ["39 0"]⟩,
    ⟨["wsegspace"], .ofGaps
      ["32 0 5728 0 2432 6 2 2 85 0 4001 0"]⟩,
    ⟨["zwj"], .ofGaps
      ["8205 0"]⟩]

/-- A class of characters at the boundaries of words. -/
def wordBreak? (name : String) : Option CharacterSet :=
  NamedSet.find? name wordBreaks

/-! ## Sentences -/

def sentenceBreaks : List NamedSet :=
  [⟨["at", "aterm"], .ofGaps
      ["46 0 8182 0 56878 0 188 0"]⟩,
    ⟨["cl", "close"], .ofGaps
      ["34 0 5 2 50 0 2 0 30 0 2 0 46 0 16 0 3711 3 1886 1 2428 7 26 1 11 1 55 1 15 1 634",
       "3 30 1 1073 5 8 13 80 1 32 9 404 21 64 3 33 1 1027 13 15 1 3 9 25 0 19 7 428 9 3 7",
       "2 2 52511 1 216 1 29 15 3 1 17 5 170 1 50 0 2 0 30 0 2 0 2 1 2 1 63251 2"]⟩,
    ⟨["cr"], .ofGaps
      ["13 0"]⟩,
    ⟨["ex", "extend"], .ofGaps
      ["768 111 276 6 264 44 2 0 2 1 2 1 2 0 73 10 49 20 17 0 102 6 3 5 3 1 2 3 36 0 31 26",
       "92 10 59 8 10 0 25 3 2 8 2 2 2 4 44 2 60 8 43 23 2 32 55 2 2 17 2 6 11 1 30 2 57 0",
       "2 6 3 1 3 2 10 0 11 1 27 0 3 2 57 0 2 4 5 1 3 2 4 0 31 1 4 0 12 2 57 0 2 7 2 2 2 2",
       "21 1 23 5 2 2 57 0 2 6 3 1 3 2 8 2 11 1 31 0 60 4 4 2 2 3 10 0 41 4 56 0 2 6 2 2 2",
       "3 8 1 12 1 30 2 57 0 2 6 2 2 2 3 8 1 12 1 16 0 13 3 56 1 2 6 2 2 2 3 10 0 11 1 30",
       "2 71 0 5 5 2 0 2 7 19 1 62 0 3 6 13 7 99 0 3 8 12 6 74 1 28 0 2 0 2 0 5 1 50 19 2",
       "1 6 10 2 35 10 0 101 19 24 3 5 2 2 2 3 6 4 3 14 11 2 0 11 3 704 2 947 3 29 2 30 1",
       "31 1 65 31 10 0 46 2 2 0 118 1 35 0 119 11 5 11 220 4 58 9 2 28 3 0 49 30 50 4 48",
       "16 39 8 13 2 31 12 57 13 49 19 153 2 2 20 5 0 7 0 3 2 199 63 525 1 195 32 3071 2",
       "142 0 97 31 555 5 106 1 30165 3 2 9 33 1 81 1 273 0 4 0 5 0 24 4 5 0 84 1 51 17 27",
       "17 14 0 39 7 26 12 45 3 48 13 37 0 68 13 13 0 9 1 46 2 51 0 2 2 3 1 6 1 2 0 42 4 6",
       "1 237 7 2 1 20273 0 738 15 17 15 367 1 606 0 227 0 150 4 1671 2 2 1 6 3 41 2 5 0",
       "166 1 574 3 66 4 318 1 80 3 71 10 50 3 123 2 54 14 42 0 3 1 11 3 46 10 8 0 62 2 37",
       "13 17 1 45 0 13 2 49 13 9 3 2 1 93 11 7 0 3 0 158 11 22 3 56 1 2 6 3 1 3 2 10 0 11",
       "1 3 6 4 4 68 8 2 0 3 0 2 3 2 4 2 0 15 1 83 17 24 0 82 19 236 6 3 8 28 1 83 16 107",
       "12 102 14 257 14 246 5 2 1 3 3 2 0 2 1 142 6 3 6 4 0 29 9 41 6 2 3 9 0 10 10 47 15",
       "406 7 2 7 83 21 2 13 123 5 4 0 2 1 2 6 2 0 67 4 2 1 2 4 348 3 10 1 2 0 49 6 4 4 24",
       "0 5350 0 7 14 11465 17 2497 4 60 6 1049 0 2 54 8 3 82 0 12 1 19628 1 4706 45 3 22",
       "543 4 4 5 9 7 3 6 31 3 149 2 1980 54 5 49 9 0 15 0 23 4 2 14 1361 6 2 16 3 6 2 1 2",
       "4 101 0 161 6 376 0 62 3 509 3 255 1 737 6 110 6 792278 95 129 239"]⟩,
    ⟨["fo", "format"], .ofGaps
      ["173 0 1391 0 243 0 4351 0 2045 0 3 1 27 4 50 4 2 9 56976 0 250 2 13365 15 34913 3",
       "5328 7 798343 0"]⟩,
    ⟨["le", "oletter"], .ofGaps
      ["443 0 5 3 209 0 37 6 7 11 27 0 2 0 134 0 485 0 119 26 5 4 45 42 36 1 2 98 2 0 16 1",
       "8 1 11 2 3 0 17 0 2 29 30 88 12 0 25 32 10 1 5 0 6 21 5 0 10 0 4 0 24 24 8 10 6 23",
       "2 5 18 41 59 53 4 0 19 0 8 9 16 15 5 7 3 1 3 21 2 6 2 0 4 3 4 0 17 0 14 1 2 2 15 1",
       "11 0 9 5 5 1 3 21 2 6 2 1 2 1 2 1 32 3 2 0 20 2 17 8 2 2 2 21 2 6 2 1 2 4 4 0 19 0",
       "16 1 24 0 12 7 3 1 3 21 2 6 2 1 2 4 4 0 31 1 2 2 16 0 18 0 2 5 4 2 2 3 4 1 2 0 2 1",
       "4 1 4 2 4 11 23 0 53 7 2 2 2 22 2 15 4 0 27 2 3 0 3 1 31 0 5 7 2 2 2 22 2 9 2 4 4",
       "0 32 1 2 1 16 1 18 8 2 2 2 40 3 0 17 0 6 2 9 2 25 5 6 17 4 23 2 8 2 0 3 6 59 47 2",
       "1 13 6 59 1 2 0 2 4 2 23 2 0 2 9 2 1 10 0 3 4 2 0 22 3 33 0 64 7 2 35 28 4 116 42",
       "21 0 17 5 5 3 4 0 4 1 8 2 5 12 13 0 66 42 3 331 2 3 3 6 2 0 2 3 3 40 2 3 3 32 2 3",
       "3 6 2 0 2 3 3 14 2 56 2 3 3 66 38 15 114 619 3 16 2 25 6 74 4 10 8 17 14 18 15 17",
       "15 12 2 2 16 51 36 0 5 0 68 88 8 4 3 33 2 0 6 69 11 30 50 29 3 4 12 43 5 25 55 22",
       "10 52 83 0 94 46 18 7 55 29 14 1 11 43 27 35 42 2 11 35 19 42 3 2 42 3 2 5 2 1 4 0",
       "1083 3 72 2 3 3 2984 55 8 0 17 22 10 6 2 6 2 6 2 6 2 6 2 6 2 6 2 6 81 0 470 2 26 8",
       "8 4 3 4 5 85 7 2 2 89 2 3 6 42 2 93 18 31 49 15 513 6591 65 22156 68 45 3 268 4 15",
       "11 1 67 0 17 0 33 79 40 8 105 0 7 0 104 0 4 6 2 2 2 3 2 22 30 51 15 49 63 5 4 0 2",
       "1 12 27 11 22 26 28 8 46 29 0 17 4 2 9 11 4 2 40 24 2 2 7 21 22 4 0 4 49 2 0 4 1 3",
       "4 3 0 2 0 25 2 3 10 8 2 13 5 3 5 3 5 10 6 2 6 146 34 30 11171 13 22 5 48 8453 365",
       "3 105 68 0 2 9 2 12 2 4 2 0 2 1 2 1 2 107 34 362 19 63 3 53 41 11 117 4 2 134 106",
       "55 3 30 4 5 3 5 3 5 3 2 36 11 2 25 2 18 2 1 2 14 3 13 35 122 70 52 268 28 4 48 48",
       "31 14 29 6 37 11 29 3 35 5 7 2 4 123 77 99 39 9 51 93 51 13 310 10 21 11 7 26 1",
       "126 5 3 0 2 43 2 1 4 0 3 22 11 22 10 30 66 18 2 1 11 21 11 25 71 55 7 1 65 0 16 3",
       "2 2 2 28 43 28 4 28 36 7 2 27 28 53 11 21 11 18 14 17 111 72 184 35 39 5 32 0 273",
       "41 7 1 17 2 60 28 11 0 9 21 43 17 47 20 28 22 13 52 58 1 3 0 14 44 33 24 27 35 30",
       "0 3 0 9 34 4 0 13 47 15 3 22 0 2 0 36 17 2 24 20 1 64 6 2 0 2 3 2 14 2 9 8 46 39 7",
       "3 1 3 21 2 6 2 1 2 4 4 0 19 0 13 4 31 9 2 0 3 0 2 37 2 0 26 0 2 0 45 52 19 3 21 2",
       "31 47 21 1 2 0 185 46 42 3 37 47 21 0 60 42 14 0 72 26 38 6 186 43 212 7 3 0 3 7 2",
       "1 2 23 16 0 2 0 95 7 3 38 17 0 2 0 29 0 11 39 8 0 22 0 12 45 20 0 19 72 200 32 32",
       "8 2 36 18 0 50 29 113 6 2 1 2 37 22 0 26 5 2 1 2 31 15 0 328 18 16 0 2 12 2 33 125",
       "0 80 921 103 110 18 195 2637 96 16 1071 18 5 26 3994 6 582 6842 29 1763 568 8 30",
       "18 78 18 29 19 47 17 3 32 20 6 18 433 44 404 74 6 0 67 12 65 1 2 0 29 6135 9 1237",
       "42 9 8936 3 2 6 2 1 2 290 16 0 30 2 3 0 15 3 9 395 2309 106 6 12 4 8 8 9 8817 0",
       "502 44 11 6 17 0 322 29 19 43 485 27 229 29 3 0 496 6 2 3 2 1 2 14 2 196 135 0",
       "1205 3 2 26 2 1 2 0 3 0 2 9 2 3 2 0 2 0 7 0 5 0 2 0 2 0 2 2 2 1 2 0 3 0 2 0 2 0 2",
       "0 2 0 2 1 2 0 3 3 2 6 2 3 2 3 2 0 2 9 2 16 6 2 2 4 2 16 4421 42719 33 4153 7 221 3",
       "5761 15 7472 16 621 2467 541 1507 4938 6 4191"]⟩,
    ⟨["lf"], .ofGaps
      ["10 0"]⟩,
    ⟨["lo", "lower"], .ofGaps
      ["97 25 48 0 11 0 5 0 37 23 2 7 2 0 2 0 2 0 2 0 2 0 2 0 2 0 2 0 2 0 2 0 2 0 2 0 2 0",
       "2 0 2 0 2 0 2 0 2 0 2 0 2 0 2 0 2 0 2 0 2 0 2 0 2 0 2 0 2 1 2 0 2 0 2 0 2 0 2 0 2",
       "0 2 0 2 1 2 0 2 0 2 0 2 0 2 0 2 0 2 0 2 0 2 0 2 0 2 0 2 0 2 0 2 0 2 0 2 0 2 0 2 0",
       "2 0 2 0 2 0 2 0 2 0 3 0 2 0 2 2 3 0 2 0 3 0 4 1 5 0 3 0 4 2 3 0 3 0 2 0 2 0 3 0 2",
       "1 2 0 3 0 4 0 2 0 3 1 3 2 7 0 3 0 3 0 2 0 2 0 2 0 2 0 2 0 2 0 2 0 2 1 2 0 2 0 2 0",
       "2 0 2 0 2 0 2 0 2 0 2 1 3 0 2 0 4 0 2 0 2 0 2 0 2 0 2 0 2 0 2 0 2 0 2 0 2 0 2 0 2",
       "0 2 0 2 0 2 0 2 0 2 0 2 0 2 0 2 0 2 0 2 0 2 0 2 0 2 0 2 0 2 0 2 0 2 6 3 0 3 1 2 0",
       "5 0 2 0 2 0 2 0 2 68 2 35 8 1 31 4 141 0 2 0 4 0 3 3 19 0 28 34 2 1 4 2 2 0 2 0 2",
       "0 2 0 2 0 2 0 2 0 2 0 2 0 2 0 2 0 2 4 2 0 3 0 3 1 52 47 2 0 2 0 2 0 2 0 2 0 2 0 2",
       "0 2 0 2 0 2 0 2 0 2 0 2 0 2 0 2 0 2 0 2 0 10 0 2 0 2 0 2 0 2 0 2 0 2 0 2 0 2 0 2 0",
       "2 0 2 0 2 0 2 0 2 0 2 0 2 0 2 0 2 0 2 0 2 0 2 0 2 0 2 0 2 0 2 0 2 0 3 0 2 0 2 0 2",
       "0 2 0 2 0 2 1 2 0 2 0 2 0 2 0 2 0 2 0 2 0 2 0 2 0 2 0 2 0 2 0 2 0 2 0 2 0 2 0 2 0",
       "2 0 2 0 2 0 2 0 2 0 2 0 2 0 2 0 2 0 2 0 2 0 2 0 2 0 2 0 2 0 2 0 2 0 2 0 2 0 2 0 2",
       "0 2 0 2 0 2 0 2 0 2 0 2 0 2 0 2 0 2 0 2 0 49 40 2932 0 764 5 2179 8 2 0 118 191 66",
       "0 2 0 2 0 2 0 2 0 2 0 2 0 2 0 2 0 2 0 2 0 2 0 2 0 2 0 2 0 2 0 2 0 2 0 2 0 2 0 2 0",
       "2 0 2 0 2 0 2 0 2 0 2 0 2 0 2 0 2 0 2 0 2 0 2 0 2 0 2 0 2 0 2 0 2 0 2 0 2 0 2 0 2",
       "0 2 0 2 0 2 0 2 0 2 0 2 0 2 0 2 0 2 0 2 0 2 0 2 0 2 0 2 0 2 0 2 0 2 0 2 0 2 0 2 0",
       "2 0 2 0 2 0 2 0 2 0 2 0 2 0 2 0 2 0 2 0 2 0 2 0 2 8 2 0 2 0 2 0 2 0 2 0 2 0 2 0 2",
       "0 2 0 2 0 2 0 2 0 2 0 2 0 2 0 2 0 2 0 2 0 2 0 2 0 2 0 2 0 2 0 2 0 2 0 2 0 2 0 2 0",
       "2 0 2 0 2 0 2 0 2 0 2 0 2 0 2 0 2 0 2 0 2 0 2 0 2 0 2 0 2 0 2 0 2 0 2 0 2 0 2 0 2",
       "8 9 5 11 7 9 7 9 5 11 7 9 7 9 13 3 7 9 7 9 7 9 4 2 1 7 0 4 2 2 1 9 3 3 1 9 7 11 2",
       "2 1 122 0 14 0 17 12 110 0 4 1 4 0 28 0 5 0 5 0 3 1 9 3 5 0 34 15 5 0 844 25 1863",
       "47 2 0 4 1 2 0 2 0 2 0 5 0 2 1 2 7 4 0 2 0 2 0 2 0 2 0 2 0 2 0 2 0 2 0 2 0 2 0 2 0",
       "2 0 2 0 2 0 2 0 2 0 2 0 2 0 2 0 2 0 2 0 2 0 2 0 2 0 2 0 2 0 2 0 2 0 2 0 2 0 2 0 2",
       "0 2 0 2 0 2 0 2 0 2 0 2 0 2 0 2 0 2 0 2 0 2 0 2 0 2 0 2 0 2 0 2 0 2 1 8 0 2 0 5 0",
       "13 37 2 0 6 0 30996 0 2 0 2 0 2 0 2 0 2 0 2 0 2 0 2 0 2 0 2 0 2 0 2 0 2 0 2 0 2 0",
       "2 0 2 0 2 0 2 0 2 0 2 0 2 0 20 0 2 0 2 0 2 0 2 0 2 0 2 0 2 0 2 0 2 0 2 0 2 0 2 0 2",
       "2 134 0 2 0 2 0 2 0 2 0 2 0 2 2 2 0 2 0 2 0 2 0 2 0 2 0 2 0 2 0 2 0 2 0 2 0 2 0 2",
       "0 2 0 2 0 2 0 2 0 2 0 2 0 2 0 2 0 2 0 2 0 2 0 2 0 2 0 2 0 2 0 2 0 2 0 2 9 2 0 2 0",
       "3 0 2 0 2 0 2 0 2 0 5 0 2 0 3 0 2 2 2 0 2 0 2 0 2 0 2 0 2 0 2 0 2 0 2 0 2 0 6 0 6",
       "0 2 0 2 0 2 0 2 0 2 0 2 0 2 0 5 0 2 0 3 0 4 0 2 0 2 0 2 0 2 0 2 0 23 2 2 0 2 2 822",
       "42 2 13 7 79 20289 6 13 4 1066 25 1230 39 137 35 156 10 2 14 2 6 2 1 452 0 3 2 2",
       "41 2 8 1286 50 126 21 2875 31 21889 31 26011 25 27 6 2 17 27 25 27 3 2 0 2 6 2 10",
       "27 25 27 25 27 25 27 25 27 25 27 25 27 25 27 25 27 27 29 24 2 5 27 24 2 5 27 24 2",
       "5 27 24 2 5 27 24 2 5 2 0 1845 9 2 19 7 5 262 61 2229 33"]⟩,
    ⟨["nu", "numeric"], .ofGaps
      ["48 9 1479 5 91 9 2 1 113 0 19 9 199 9 199 1 81 0 132 9 119 9 119 9 119 9 119 9 119",
       "9 119 9 119 9 119 9 119 9 97 9 119 9 71 9 279 9 71 9 1863 9 39 9 301 9 129 10 166",
       "9 7 9 183 9 87 9 135 9 7 9 35271 9 679 9 39 9 199 9 23 9 87 9 407 9 21271 9 1415 9",
       "2183 9 7 9 797 9 78 0 16 0 35 9 61 9 145 9 279 9 343 9 119 9 375 9 103 9 7 19 77 9",
       "423 9 103 9 663 9 87 9 247 9 71 9 423 9 16855 9 2343 9 87 9 135 9 535 9 24439 9",
       "2773 49 2369 9 423 9 503 9 248 9 854 9 4759 9"]⟩,
    ⟨["sc", "scontinue"], .ofGaps
      ["44 1 13 1 835 0 479 0 175 1 491 0 4106 0 6 0 2059 1 4077 0 52751 1 2 1 29 1 30 1 3",
       "1 3 0 11 0 169 1 13 1 73 0"]⟩,
    ⟨["se", "sep"], .ofGaps
      ["133 0 8099 1"]⟩,
    ⟨["sp"], .ofGaps
      ["9 0 2 1 20 0 128 0 5600 0 2432 10 37 0 48 0 4001 0"]⟩,
    ⟨["st", "sterm"], .ofGaps
      ["33 0 30 0 1354 0 148 2 181 0 44 2 247 0 62 0 2 0 4 1 294 1 1765 1 791 0 5 1 774 0",
       "199 1 158 1 46 0 6 0 315 1 355 3 163 1 11 1 3 1 30 2 188 1 66 1 957 1 10 2 3248 2",
       "307 0 14 0 23 1 430 0 29949 0 271 1 228 0 4 0 383 1 87 1 96 0 153 1 148 2 145 1",
       "250 0 21031 0 3 1 64 1 170 0 30 0 66 0 2805 1 1278 4 45 3 190 1 118 3 128 2 130 1",
       "7 0 17 1 89 1 2 1 109 0 299 1 118 1 374 1 6 14 106 1 250 2 518 0 2 0 252 1 88 1",
       "421 1 693 1 75 1 19242 1 134 0 66 1 12 0 554 1 297 0 19975 0 7657 0"]⟩,
    ⟨["up", "upper"], .ofGaps
      ["65 25 102 22 2 6 34 0 2 0 2 0 2 0 2 0 2 0 2 0 2 0 2 0 2 0 2 0 2 0 2 0 2 0 2 0 2 0",
       "2 0 2 0 2 0 2 0 2 0 2 0 2 0 2 0 2 0 2 0 2 0 2 0 3 0 2 0 2 0 2 0 2 0 2 0 2 0 2 0 3",
       "0 2 0 2 0 2 0 2 0 2 0 2 0 2 0 2 0 2 0 2 0 2 0 2 0 2 0 2 0 2 0 2 0 2 0 2 0 2 0 2 0",
       "2 0 2 0 2 1 2 0 2 0 4 1 2 0 2 1 2 2 3 3 2 1 2 2 4 1 2 1 2 0 2 0 2 1 2 0 3 0 2 1 2",
       "2 2 0 2 1 4 0 8 1 2 1 2 1 2 0 2 0 2 0 2 0 2 0 2 0 2 0 2 0 3 0 2 0 2 0 2 0 2 0 2 0",
       "2 0 2 0 2 0 3 1 2 0 2 2 2 0 2 0 2 0 2 0 2 0 2 0 2 0 2 0 2 0 2 0 2 0 2 0 2 0 2 0 2",
       "0 2 0 2 0 2 0 2 0 2 0 2 0 2 0 2 0 2 0 2 0 2 0 2 0 2 0 2 0 8 1 2 1 3 0 2 3 2 0 2 0",
       "2 0 2 0 290 0 2 0 4 0 9 0 7 0 2 2 2 0 2 1 2 16 2 8 36 0 3 2 4 0 2 0 2 0 2 0 2 0 2",
       "0 2 0 2 0 2 0 2 0 2 0 2 0 6 0 3 0 2 1 3 50 49 0 2 0 2 0 2 0 2 0 2 0 2 0 2 0 2 0 2",
       "0 2 0 2 0 2 0 2 0 2 0 2 0 2 0 10 0 2 0 2 0 2 0 2 0 2 0 2 0 2 0 2 0 2 0 2 0 2 0 2 0",
       "2 0 2 0 2 0 2 0 2 0 2 0 2 0 2 0 2 0 2 0 2 0 2 0 2 0 2 0 2 1 2 0 2 0 2 0 2 0 2 0 2",
       "0 3 0 2 0 2 0 2 0 2 0 2 0 2 0 2 0 2 0 2 0 2 0 2 0 2 0 2 0 2 0 2 0 2 0 2 0 2 0 2 0",
       "2 0 2 0 2 0 2 0 2 0 2 0 2 0 2 0 2 0 2 0 2 0 2 0 2 0 2 0 2 0 2 0 2 0 2 0 2 0 2 0 2",
       "0 2 0 2 0 2 0 2 0 2 0 2 0 2 0 3 37 2890 37 2 0 6 0 723 85 2196 0 375 0 2 0 2 0 2 0",
       "2 0 2 0 2 0 2 0 2 0 2 0 2 0 2 0 2 0 2 0 2 0 2 0 2 0 2 0 2 0 2 0 2 0 2 0 2 0 2 0 2",
       "0 2 0 2 0 2 0 2 0 2 0 2 0 2 0 2 0 2 0 2 0 2 0 2 0 2 0 2 0 2 0 2 0 2 0 2 0 2 0 2 0",
       "2 0 2 0 2 0 2 0 2 0 2 0 2 0 2 0 2 0 2 0 2 0 2 0 2 0 2 0 2 0 2 0 2 0 2 0 2 0 2 0 2",
       "0 2 0 2 0 2 0 2 0 2 0 2 0 2 0 2 0 2 0 10 0 2 0 2 0 2 0 2 0 2 0 2 0 2 0 2 0 2 0 2 0",
       "2 0 2 0 2 0 2 0 2 0 2 0 2 0 2 0 2 0 2 0 2 0 2 0 2 0 2 0 2 0 2 0 2 0 2 0 2 0 2 0 2",
       "0 2 0 2 0 2 0 2 0 2 0 2 0 2 0 2 0 2 0 2 0 2 0 2 0 2 0 2 0 2 0 2 0 2 0 10 7 9 5 11",
       "7 9 7 9 5 12 0 2 0 2 0 2 0 9 7 25 7 9 7 9 7 9 4 12 4 12 3 13 4 12 4 262 0 5 0 4 2",
       "3 2 3 0 4 4 7 0 2 0 2 0 2 3 3 3 11 1 6 0 27 15 20 0 819 25 1841 47 49 0 2 2 3 0 2",
       "0 2 0 2 3 2 0 3 0 9 2 2 0 2 0 2 0 2 0 2 0 2 0 2 0 2 0 2 0 2 0 2 0 2 0 2 0 2 0 2 0",
       "2 0 2 0 2 0 2 0 2 0 2 0 2 0 2 0 2 0 2 0 2 0 2 0 2 0 2 0 2 0 2 0 2 0 2 0 2 0 2 0 2",
       "0 2 0 2 0 2 0 2 0 2 0 2 0 2 0 2 0 2 0 2 0 2 0 2 0 2 0 9 0 2 0 5 0 31054 0 2 0 2 0",
       "2 0 2 0 2 0 2 0 2 0 2 0 2 0 2 0 2 0 2 0 2 0 2 0 2 0 2 0 2 0 2 0 2 0 2 0 2 0 2 0 20",
       "0 2 0 2 0 2 0 2 0 2 0 2 0 2 0 2 0 2 0 2 0 2 0 2 0 2 0 136 0 2 0 2 0 2 0 2 0 2 0 2",
       "0 4 0 2 0 2 0 2 0 2 0 2 0 2 0 2 0 2 0 2 0 2 0 2 0 2 0 2 0 2 0 2 0 2 0 2 0 2 0 2 0",
       "2 0 2 0 2 0 2 0 2 0 2 0 2 0 2 0 2 0 2 0 2 0 11 0 2 0 2 1 2 0 2 0 2 0 2 0 5 0 2 0 3",
       "0 2 0 4 0 2 0 2 0 2 0 2 0 2 0 2 0 2 0 2 0 2 0 2 4 2 4 2 0 2 0 2 0 2 0 2 0 2 0 2 0",
       "2 3 2 0 2 1 4 0 6 0 2 0 2 0 2 0 25 0 22316 25 1222 39 137 35 157 10 2 14 2 6 2 1",
       "1771 50 158 21 2875 31 21889 31 26017 25 27 25 27 25 27 0 2 1 3 0 3 1 3 3 2 7 27",
       "25 27 1 2 3 3 7 2 6 28 1 2 3 2 4 2 0 4 6 28 25 27 25 27 25 27 25 27 25 27 25 31 24",
       "34 24 34 24 34 24 34 24 34 0 4406 33 2063 25 7 25 7 25"]⟩]

/-- A class of characters at the boundaries of sentences. -/
def sentenceBreak? (name : String) : Option CharacterSet :=
  NamedSet.find? name sentenceBreaks

end Assessment.Text
