import Assessment.Number.Integer

/-!
# Random sources

Random expressions draw from a source that is plain data: endless streams of numbers
and of proposals for doubles, and a position in them.  A draw below a bound takes the
next number modulo the bound, and a draw between two doubles takes the next proposal if
it lies there.  So for every source there is a definite answer, and every answer has a
source.
-/

namespace Assessment

structure RandomSource where
  stream : Nat → Nat
  /-- What is proposed at a position for a double between two others. -/
  proposal : Nat → Float → Float → Float
  position : Nat

namespace RandomSource

/-- A number below the bound, and the source after the draw.  There is none below
zero. -/
def below? (bound : Nat) (source : RandomSource) : Option (Nat × RandomSource) :=
  if bound = 0 then none
  else
    some (source.stream source.position % bound, { source with position := source.position + 1 })

/-- A double from `low` to `high`, and the source after the draw.  What is proposed from
outside of the bounds is replaced by the lower one.  There is none between bounds that
are out of order. -/
def between? (low high : Float) (source : RandomSource) : Option (Float × RandomSource) :=
  if low ≤ high then
    let proposed := source.proposal source.position low high
    some (if low ≤ proposed ∧ proposed ≤ high then proposed else low,
      { source with position := source.position + 1 })
  else none

/-- Spreads the bits of a word over all of it. -/
def mix (word : UInt64) : UInt64 :=
  let word := (word ^^^ (word >>> 30)) * 0xBF58476D1CE4E5B9
  let word := (word ^^^ (word >>> 27)) * 0x94D049BB133111EB
  word ^^^ (word >>> 31)

/-- The numbers of a seed, which have 128 bits. -/
def number (seed position : Nat) : Nat :=
  let step : UInt64 := 0x9E3779B97F4A7C15
  let word := seed.toUInt64 + (2 * position.toUInt64 + 1) * step
  (mix word).toNat * Nat.pow 2 64 + (mix (word + step)).toNat

/-- The number of equal parts that a seed cuts the range between two doubles into. -/
def floatParts : Nat := Nat.pow 2 53

/-- The double that a number stands for between two others. -/
def spread (low high : Float) (number : Nat) : Float :=
  let part := number % (floatParts + 1)
  let drawn := low + (high - low) * (Float.ofNat part / Float.ofNat floatParts)
  if high < drawn then high else drawn

def ofSeed (seed : Nat) : RandomSource where
  stream := number seed
  proposal position low high := spread low high (number seed position)
  position := 0

theorem below?_lt {bound draw : Nat} {source after : RandomSource}
    (drawn : source.below? bound = some (draw, after)) : draw < bound := by
  unfold below? at drawn
  split at drawn
  next => cases drawn
  next nonzero =>
    cases drawn
    exact Nat.mod_lt _ (Nat.pos_of_ne_zero nonzero)

end RandomSource

end Assessment
