import Formicary.Word

/-!
# The random number generator

A small generator with 64 bits of state. Every draw adds a fixed odd increment to the state and
scrambles the sum by one full 128-bit product, whose two halves are folded together. Equal seeds
give equal sequences of draws.

`Rng.below` and `Rng.unit` reject some draws and try again. The state runs through all `2 ^ 64`
words before it repeats, so a bound of `2 ^ 64` tries loses no answer.
-/

namespace Formicary

/-- A generator, given by its current state. -/
structure Rng where
  /-- The state, which the seed starts and every draw advances. -/
  state : UInt64
  deriving DecidableEq

namespace Rng

/-- The generator started from a seed. -/
def ofSeed (seed : UInt64) : Rng := ⟨seed⟩

/-- The step by which every draw advances the state. -/
def increment : UInt64 := 0x2d358dccaa6c78a5

/-- The word that is combined with the state before it is scrambled. -/
def scramble : UInt64 := 0x8bb84b93962eacc9

/-- The number of states, which bounds every search for an acceptable draw. -/
def period : Nat := UInt64.size

/-- Draw 64 random bits. -/
def word (rng : Rng) : UInt64 × Rng :=
  let state := rng.state + increment
  let factor := state ^^^ scramble
  ((state * factor) ^^^ Word.highProduct state factor, ⟨state⟩)

/-- Draw a word whose low half, multiplied by `n`, leaves at least `threshold` modulo `2 ^ 32`;
the answer is what the product holds above those 32 bits. -/
def belowFrom (n threshold : UInt64) (tries : Nat) (rng : Rng) : UInt32 × Rng :=
  let (bits, rng) := rng.word
  let product := bits.toUInt32.toUInt64 * n
  -- The low half of the product is the place within an interval, the high half the interval.
  if product.toUInt32.toUInt64 < threshold then
    match tries with
    | 0 => (0, rng)
    | tries + 1 => belowFrom n threshold tries rng
  else ((product >>> 32).toUInt32, rng)

/-- Draw a number below `n`, each equally likely. The product of a 32-bit draw with `n` falls
into one of `n` intervals; the `2 ^ 32 % n` draws that would favour some interval are rejected.
There is nothing to draw when `n` is `0`: the answer is `0` and the generator stays as it is. -/
def below (rng : Rng) (n : UInt32) : UInt32 × Rng :=
  if n = 0 then (0, rng)
  else belowFrom n.toUInt64 (0x100000000 % n.toUInt64) period rng

/-- Draw a fraction of `2 ^ 63` until rounding leaves it below one. -/
def unitFrom (tries : Nat) (rng : Rng) : Float × Rng :=
  let (bits, rng) := rng.word
  -- A numerator close to `2 ^ 63` may be rounded up to it, which would give one.
  let x := (bits >>> 1).toFloat / 0x8000000000000000
  if x < 1 then (x, rng)
  else
    match tries with
    | 0 => (0, rng)
    | tries + 1 => unitFrom tries rng

/-- Draw a fraction between zero and one, one excluded. -/
def unit (rng : Rng) : Float × Rng := unitFrom period rng

end Rng

end Formicary
