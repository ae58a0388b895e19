import Formicary.Color
import Formicary.Direction

/-!
# Ants

An ant is a state machine with a body: it stands on a cell, faces a direction, may carry one unit
of food, and sleeps for a while after every move.
-/

namespace Formicary

/-- The number of ticks that an ant sleeps after a successful move. -/
def restTicks : Nat := 14

/-- The record of one ant. Dead ants keep their record. -/
structure Ant where
  /-- The ant's number, by order of birth. -/
  id : Nat
  /-- The colony that the ant belongs to. -/
  color : Color
  /-- The index of the cell that the ant stands on, or died on. -/
  pos : Nat
  /-- The state of the brain that the ant executes next. -/
  state : Nat := 0
  /-- The direction that the ant faces. -/
  dir : Direction := .east
  /-- The ticks left before the ant acts again. -/
  resting : Nat := 0
  /-- Whether the ant lives. -/
  alive : Bool := true
  /-- Whether the ant carries a unit of food. -/
  hasFood : Bool := false
  deriving DecidableEq

namespace Ant

/-- A new ant, awake, empty-handed, facing east, in state `0`. -/
def spawn (id : Nat) (color : Color) (pos : Nat) : Ant := { id, color, pos }

/-- The food units carried: none or one. -/
def food (ant : Ant) : Nat := if ant.hasFood then 1 else 0

/-- Whether the ant sleeps off a move. -/
def isResting (ant : Ant) : Bool := ant.resting > 0

/-- Begin the sleep that follows a move. -/
def rest (ant : Ant) : Ant := { ant with resting := restTicks }

/-- Stand on another cell. -/
def moveTo (ant : Ant) (pos : Nat) : Ant := { ant with pos }

/-- Die, losing whatever was carried. -/
def die (ant : Ant) : Ant := { ant with hasFood := false, alive := false }

/-- The ant in one line of text. -/
def text (ant : Ant) : String :=
  s!"{ant.color.name} ant of id {ant.id}, dir {ant.dir.index}, food {ant.food}, " ++
    s!"state {ant.state}, resting {ant.resting}"

end Ant

end Formicary
