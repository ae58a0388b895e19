import Formicary.Generator.Canvas
import Formicary.Rng

/-!
# Sketches

A sketch is a canvas being painted at random. All stamps of a sketch are put down by trial and
error out of one budget of trials; when it is used up the sketch is given up, and all that remains
of it is the generator.
-/

namespace Formicary

/-- A canvas being painted. -/
structure Sketch where
  /-- What is painted so far. -/
  canvas : Canvas
  /-- The number of trials left. -/
  budget : Nat
  /-- The generator. -/
  rng : Rng

namespace Sketch

/-- The number of trials for a whole world. -/
def maxTrials : Nat := 10000

/-- The number of rocks painted. -/
def rockCount : Nat := 14

/-- A random cell of a contest world. -/
def randomSpot (rng : Rng) : Hex × Rng :=
  let (row, rng) := rng.below (UInt32.ofNat contestSize)
  let (col, rng) := rng.below (UInt32.ofNat contestSize)
  (⟨row.toNat, col.toNat⟩, rng)

/-- A random member of a list of stamps. -/
def randomStamp (stamps : List Stamp) (rng : Rng) : Stamp × Rng :=
  let (i, rng) := rng.below (UInt32.ofNat stamps.length)
  (stamps.getD i.toNat [], rng)

/-- Try cells that are drawn one after the other until a stamp can be put down, at most as many as
the budget allows. The answer is the cell and the sketch after it, or the generator if the budget is
used up. -/
def placeWithin (draw : Rng → Hex × Rng) (stamp : Stamp) (paint : Paint) :
    Nat → Canvas → Rng → Except Rng (Hex × Sketch)
  | 0, _, rng => .error rng
  | budget + 1, canvas, rng =>
    let (spot, rng) := draw rng
    match canvas.superimpose stamp spot paint with
    | some canvas => .ok (spot, ⟨canvas, budget, rng⟩)
    | none => placeWithin draw stamp paint budget canvas rng

/-- Put a stamp down on a random cell. -/
def place (sketch : Sketch) (stamp : Stamp) (paint : Paint) : Except Rng (Hex × Sketch) :=
  placeWithin randomSpot stamp paint sketch.budget sketch.canvas sketch.rng

/-- Put a stamp down on a random cell that does not matter. -/
def put (sketch : Sketch) (stamp : Stamp) (paint : Paint) : Except Rng Sketch := do
  let (_, sketch) ← sketch.place stamp paint
  return sketch

/-- Now and then change the heading of a walk, mostly to the same side as the last time, which is
the left if `toLeft` is set. -/
def steer (heading : Direction) (toLeft : Bool) (rng : Rng) : Direction × Bool × Rng :=
  let (turns, rng) := rng.unit
  if turns > 0.9 then
    -- A second draw, taken only when the heading changes, decides about the side.
    let (swaps, rng) := rng.unit
    let toLeft := if swaps > 0.9 then !toLeft else toLeft
    (if toLeft then heading.left else heading.right, toLeft, rng)
  else (heading, toLeft, rng)

/-- Walk a rock stamp over a canvas, painting at every step, for a number of steps or until
something is in the way. Before every step `steer` decides about the heading. -/
def walk (steer : Direction → Bool → Rng → Direction × Bool × Rng) (stamp : Stamp) :
    Nat → Canvas → Hex → Direction → Bool → Rng → Canvas × Rng
  | 0, canvas, _, _, _, rng => (canvas, rng)
  | steps + 1, canvas, spot, heading, toLeft, rng =>
    let (heading, toLeft, rng) := steer heading toLeft rng
    let spot := heading.step spot
    match canvas.superimpose stamp spot .wetRock with
    | some canvas => walk steer stamp steps canvas spot heading toLeft rng
    | none => (canvas, rng)

/-- Walk a stamp from a random cell and let its trail dry. -/
def stroke (sketch : Sketch) (stamp : Stamp) (heading : Direction) (steps : Nat) :
    Except Rng Sketch := do
  let (spot, sketch) ← sketch.place stamp .wetRock
  let (canvas, rng) := walk steer stamp steps sketch.canvas spot heading true sketch.rng
  return { sketch with canvas := canvas.dry, rng }

/-- Paint one rock: walk a random stamp in a random direction for a random number of steps. -/
def drawRock (sketch : Sketch) : Except Rng Sketch :=
  let stamp := randomStamp Stamp.rocks sketch.rng
  let heading := stamp.2.below 6
  let steps := heading.2.below 50
  { sketch with rng := steps.2 }.stroke stamp.1 (.ofIndex heading.1.toNat) (30 + steps.1.toNat)

/-- Paint one food blob of a random shape. -/
def drawBlob (sketch : Sketch) : Except Rng Sketch :=
  let stamp := randomStamp Stamp.foods sketch.rng
  { sketch with rng := stamp.2 }.put stamp.1 (.dry (.food contestFood))

/-- Paint a number of things, each with the same step. -/
def paintMany (paintOne : Sketch → Except Rng Sketch) : Nat → Sketch → Except Rng Sketch
  | 0, sketch => .ok sketch
  | count + 1, sketch => do paintMany paintOne count (← paintOne sketch)

/-- Paint a whole world: the rocks, the red and the black hill, and the food. -/
def drawWorld (rng : Rng) : Except Rng Sketch := do
  let sketch ←
    paintMany drawRock rockCount ⟨Canvas.walled contestSize contestSize, maxTrials, rng⟩
  let sketch ← sketch.put Stamp.hill (.dry (.hill .red))
  let sketch ← sketch.put Stamp.hill (.dry (.hill .black))
  paintMany drawBlob contestBlobs sketch

end Sketch

end Formicary
