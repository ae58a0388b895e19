import Formicary.Game.Combat

/-!
# Steps and ticks

In every tick each ant steps once, in the order of their numbers. A dead ant does nothing, a
resting ant rests, and any other ant executes the instruction of its state. An ant killed earlier
in a tick skips its turn.
-/

namespace Formicary

namespace Game

/-- The number of the cell that an ant senses. -/
def sensedCell? (game : Game) (ant : Ant) : SenseDir → Option Nat
  | .here => some ant.pos
  | .ahead => game.board.neighbor? ant.pos ant.dir
  | .leftAhead => game.board.neighbor? ant.pos ant.dir.left
  | .rightAhead => game.board.neighbor? ant.pos ant.dir.right

/-- Whether a condition holds on a cell, as an ant of the given colony sees it. -/
def holdsOn (game : Game) (cell : Cell) (color : Color) (cond : Condition) : Bool :=
  let occupant (p : Ant → Bool) : Bool := (cell.ant.bind game.ant?).any p
  match cond with
  | .friend => occupant fun ant => ant.color = color
  | .foe => occupant fun ant => ant.color ≠ color
  | .friendWithFood => occupant fun ant => ant.color = color && ant.hasFood
  | .foeWithFood => occupant fun ant => ant.color ≠ color && ant.hasFood
  | .food => cell.hasFood
  | .rock => cell.isRock
  | .marker id => cell.hasMarker color id
  | .foeMarker => cell.hasAnyMarker color.other
  | .home => cell.terrain = .hill color
  | .foeHome => cell.terrain = .hill color.other

/-- Whether a condition holds on the cell with a given number. Where there is no cell there is
rock. -/
def senses (game : Game) (i : Option Nat) (color : Color) (cond : Condition) : Bool :=
  match i.bind game.board.cell? with
  | some cell => game.holdsOn cell color cond
  | none => cond = .rock

/-- Set a marker under an ant. -/
def placeMark (game : Game) (ant : Ant) (marker : Nat) : Game :=
  (game.modifyCell ant.pos (·.addMarker ant.color marker)).recordAt ant.pos fun cell =>
    .markerPlaced cell.row cell.col ant.color marker

/-- Clear a marker under an ant. -/
def clearMark (game : Game) (ant : Ant) (marker : Nat) : Game :=
  (game.modifyCell ant.pos (·.removeMarker ant.color marker)).recordAt ant.pos fun cell =>
    .markerRemoved cell.row cell.col ant.color marker

/-- Whether an ant can take up food: its hands are free and there is food under it. -/
def canPickUp (game : Game) (ant : Ant) : Bool :=
  !ant.hasFood && (game.board.cell? ant.pos).any Cell.hasFood

/-- Let an ant take up a unit of food. -/
def takeFood (game : Game) (id : Nat) (ant : Ant) : Game :=
  ((game.modifyCell ant.pos Cell.removeFood).modifyAnt id ({ · with hasFood := true })).recordAt
    ant.pos foodEvent

/-- Let an ant lay down the unit of food that it carries. -/
def layFood (game : Game) (id : Nat) (ant : Ant) : Game :=
  ((game.modifyCell ant.pos (·.depositFood 1)).modifyAnt id ({ · with hasFood := false })).recordAt
    ant.pos foodEvent

/-- The cell ahead of an ant, if the ant could step onto it. -/
def openAhead? (game : Game) (ant : Ant) : Option Nat := do
  let i ← game.board.neighbor? ant.pos ant.dir
  let cell ← game.board.cell? i
  if cell.isAvailable then some i else none

/-- Move an ant from its cell to another one, where it begins to rest. -/
def relocate (game : Game) (id : Nat) (ant : Ant) (dest : Nat) : Game :=
  let game := game.modifyCell ant.pos Cell.removeAnt
  let game := game.modifyCell dest (·.setAnt id)
  game.modifyAnt id fun ant => (ant.moveTo dest).rest

/-- Execute one instruction for an ant that lives and is awake. The answer is the next state of
the ant, which is not yet noted in its record, and the game. -/
def execute (game : Game) (id : Nat) (ant : Ant) (instruction : Instruction) : Nat × Game :=
  match instruction with
  | .sense dir cond onTrue onFalse =>
    (if game.senses (game.sensedCell? ant dir) ant.color cond then onTrue else onFalse, game)
  | .mark marker next => (next, game.placeMark ant marker)
  | .unmark marker next => (next, game.clearMark ant marker)
  | .pickUp onSuccess onFail =>
    if game.canPickUp ant then (onSuccess, game.takeFood id ant) else (onFail, game)
  | .drop next => (next, if ant.hasFood then game.layFood id ant else game)
  | .turn side next => (next, game.modifyAnt id fun ant => { ant with dir := side.apply ant.dir })
  | .move onSuccess onFail =>
    match game.openAhead? ant with
    | some dest => (onSuccess, (game.relocate id ant dest).resolveCombat id)
    | none => (onFail, game)
  | .flip bound onZero otherwise =>
    -- A bound of zero draws nothing and counts as zero.
    let (n, rng) := game.rng.below bound
    (if n = 0 then onZero else otherwise, { game with rng })

/-- Let a live ant that is awake execute the instruction of its state. -/
def act (game : Game) (id : Nat) (ant : Ant) : Game :=
  match (game.brain ant.color).get? ant.state with
  | some instruction =>
    -- The state is noted last and in any case: the ant may have moved to its death.
    let (next, game) := game.execute id ant instruction
    game.modifyAnt id ({ · with state := next })
  | none => game

/-- One step of one ant. -/
def stepAnt (game : Game) (id : Nat) : Game :=
  match game.ant? id with
  | none => game
  | some ant =>
    if !ant.alive then game
    else if ant.isResting then
      game.modifyAnt id fun ant => { ant with resting := ant.resting - 1 }
    else game.act id ant

/-- One tick: every ant steps once. -/
def tick (game : Game) : Game :=
  let game := (List.range game.ants.size).foldl stepAnt game
  { game with ticks := game.ticks + 1 }

/-- A number of ticks. -/
def run : Nat → Game → Game
  | 0, game => game
  | n + 1, game => run n game.tick

end Game

end Formicary
