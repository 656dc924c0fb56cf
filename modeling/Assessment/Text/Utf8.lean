import Assessment.CharacterSet

/-!
# Characters as bytes

UTF-8 writes a character as one to four bytes: a leading byte and up to three further
ones that carry six bits each.  Characters of one block have equally many bytes.  A
range of characters is therefore a list of sequences of byte ranges, in the order of
the characters: one sequence for every stretch within which the bytes vary
independently.
-/

namespace Assessment.Text

structure ByteRange where
  first : Nat
  last : Nat
  deriving DecidableEq, Repr

/-- Characters with the same number of further bytes, and what is added to the leading
bits of their code points to make the leading byte. -/
structure ByteBlock where
  codes : CodeRange
  further : Nat
  lead : Nat

/-- The blocks in order.  The surrogates are left out. -/
def byteBlocks : List ByteBlock :=
  [⟨⟨0, 0x7F⟩, 0, 0⟩,
    ⟨⟨0x80, 0x7FF⟩, 1, 0xC0⟩,
    ⟨⟨0x800, 0xD7FF⟩, 2, 0xE0⟩,
    ⟨⟨0xE000, 0xFFFF⟩, 2, 0xE0⟩,
    ⟨⟨0x10000, lastCode⟩, 3, 0xF0⟩]

/-- The number of bytes of a character. -/
def byteLength (code : Nat) : Nat :=
  if code < 0x80 then 1 else if code < 0x800 then 2 else if code < 0x10000 then 3 else 4

/-- What a further byte adds to its six bits. -/
def furtherLead : Nat := 0x80

/-- How many further bytes there are. -/
def furtherCount : Nat := 64

def anyFurther : ByteRange := ⟨furtherLead, furtherLead + furtherCount - 1⟩

/-- The sequences for the numbers from the first to the last, written as a leading digit
and the given number of further ones to base 64: those that begin like the first number
if their further digits are not free, those whose further digits are free, and those
that begin like the last number. -/
def digitSequences (lead : Nat) : Nat → Nat → Nat → List (List ByteRange)
  | 0, first, last => [[⟨lead + first, lead + last⟩]]
  | further + 1, first, last =>
      let unit := Nat.pow furtherCount (further + 1)
      let low := first / unit
      let high := last / unit
      let start := first % unit
      let finish := last % unit
      let behind := fun (digit first last : Nat) =>
        (digitSequences furtherLead further first last).map
          (⟨lead + digit, lead + digit⟩ :: ·)
      if low = high then behind low start finish
      else
        let lowest := if start = 0 then [] else behind low start (unit - 1)
        let highest := if finish = unit - 1 then [] else behind high 0 finish
        let free := if start = 0 then low else low + 1
        let freeEnd := if finish = unit - 1 then high else high - 1
        let between :=
          if free ≤ freeEnd then
            [⟨lead + free, lead + freeEnd⟩ :: List.replicate (further + 1) anyFurther]
          else []
        lowest ++ between ++ highest

/-- The byte sequences of the characters of a range. -/
def byteSequences (range : CodeRange) : List (List ByteRange) :=
  byteBlocks.flatMap fun block =>
    match range.meet? block.codes with
    | some part => digitSequences block.lead block.further part.first part.last
    | none => []

/-- The bytes of a text. -/
def bytes (text : List Char) : List Nat :=
  text.flatMap fun c => (String.utf8EncodeChar c).map (·.toNat)

/-- The number of bytes of a text. -/
def textByteLength (text : List Char) : Nat :=
  text.foldl (fun length c => length + byteLength c.toNat) 0

end Assessment.Text
