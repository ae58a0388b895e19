import Formicary.Game.Basic

/-!
# Combat

An ant with five or more enemies on the cells around it dies and leaves food behind. Only the ant
that has just moved and the enemies next to it can newly find themselves surrounded, so after a
move exactly these are checked, the mover first.
-/

namespace Formicary

/-- The number of enemies around an ant that kills it. -/
def surroundLimit : Nat := 5

/-- The food that a dead ant leaves on its cell, besides what it carried. -/
def deathFood : Nat := 3

namespace Game

/-- The number of the ant next to an ant in a direction, if it belongs to the other colony. -/
def enemyToward? (game : Game) (ant : Ant) (d : Direction) : Option Nat := do
  let i ← game.board.neighbor? ant.pos d
  let cell ← game.board.cell? i
  let other ← cell.ant
  let enemy ← game.ant? other
  if enemy.color ≠ ant.color then some other else none

/-- The numbers of the enemies next to an ant, clockwise from east. -/
def adjacentEnemies (game : Game) (id : Nat) : List Nat :=
  match game.ant? id with
  | some ant => Direction.all.filterMap (game.enemyToward? ant)
  | none => []

/-- Whether an ant lives and has so many enemies around it that it must die. -/
def isSurrounded (game : Game) (id : Nat) : Bool :=
  match game.ant? id with
  | some ant => ant.alive && surroundLimit ≤ (game.adjacentEnemies id).length
  | none => false

/-- Kill an ant: it vanishes from its cell, where food remains. -/
def kill (game : Game) (id : Nat) : Game :=
  match game.ant? id with
  | none => game
  | some ant =>
    -- The food carried falls down and comes on top of what every dead ant leaves.
    let amount := UInt32.ofNat (deathFood + ant.food)
    let game := game.modifyCell ant.pos fun cell => (cell.depositFood amount).removeAnt
    let game := game.modifyAnt id Ant.die
    -- Events are told when the change is complete: the food first, then the death.
    let game := game.recordAt ant.pos foodEvent
    game.recordAt ant.pos fun cell => .antKilled id ant.color cell.row cell.col

/-- Kill an ant if it is surrounded. -/
def checkDeath (game : Game) (id : Nat) : Game :=
  if game.isSurrounded id then game.kill id else game

/-- Check the given ants one after the other. -/
def settle (game : Game) (ids : List Nat) : Game := ids.foldl checkDeath game

/-- Check the ant that has just moved and then the enemies that it moved next to, whether or not
the mover survives. -/
def resolveCombat (game : Game) (mover : Nat) : Game :=
  game.settle (mover :: game.adjacentEnemies mover)

end Game

end Formicary
