import Formicary.Generator.Sketch
import Formicary.World.Source

/-!
# Generating contest worlds

Worlds are sketched at random until one of them satisfies the contest rules. Rarely a sketch is
given up, or two food blobs of a sketch touch in a way that the rules do not accept.
-/

namespace Formicary

/-- What comes of a sketch: its source, if it is not given up, and the generator. -/
def Sketch.result : Except Rng Sketch → Option String × Rng
  | .error rng => (none, rng)
  | .ok sketch => (some sketch.canvas.render, sketch.rng)

/-- One attempt at a contest world: its source, if the attempt succeeds, and the generator. -/
def attemptWorld (rng : Rng) : Option String × Rng := Sketch.result (Sketch.drawWorld rng)

/-- Attempt contest worlds until the contest rules accept one, a number of times at most. -/
def generateWithin (attempt : Rng → Option String × Rng) : Nat → Rng → Option (String × Rng)
  | 0, _ => none
  | attempts + 1, rng =>
    match attempt rng with
    | (none, rng) => generateWithin attempt attempts rng
    | (some source, rng) =>
      -- The sketch was meant to satisfy the rules; whether it does is for the rules to say.
      match WorldMap.parse source true with
      | .ok _ => some (source, rng)
      | .error _ => generateWithin attempt attempts rng

/-- The source of a random contest world, and the generator after it. An attempt depends on
nothing but the state of the generator, so after as many attempts as there are states there is
nothing new to try. -/
def generateWorld (rng : Rng) : Option (String × Rng) :=
  generateWithin attemptWorld Rng.period rng

end Formicary
