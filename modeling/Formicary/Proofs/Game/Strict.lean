import Formicary.Proofs.Game.Change

/-!
# The game with checked accesses

Cells, ants and instructions are found by number. The definitions here follow a tick access by
access and give up where a number leads nowhere, where a draw is out of range, or where a counter
at zero is to be counted down. They also keep links the way a packed cell does: in one word each,
whose greatest value stands for a missing neighbour. That a tick comes to a result, and to the same
one, says that none of this happens. `Progress.lean` shows it for every run of a game.
-/

namespace Formicary

namespace Links

/-- The word that stands for a missing neighbour. -/
def missing : UInt32 := 0xffffffff

/-- The word that a link is kept in. -/
def toWord : Option Nat → UInt32
  | some i => UInt32.ofNat i
  | none => missing

/-- The link that is kept in a word. -/
def ofWord (word : UInt32) : Option Nat := if word = missing then none else some word.toNat

/-- Links to cells that are numbered below the missing one can be kept in words. -/
theorem ofWord_toWord {link : Option Nat} (h : ∀ i, link = some i → i < missing.toNat) :
    ofWord (toWord link) = link := by
  cases link with
  | none => rfl
  | some i =>
    have hlt : i < missing.toNat := h i rfl
    have hle : missing.toNat ≤ UInt32.size := by decide
    have hword : (UInt32.ofNat i).toNat = i := UInt32.toNat_ofNat_of_lt' (by omega)
    have hne : UInt32.ofNat i ≠ missing := by
      intro heq
      rw [heq] at hword
      omega
    rw [toWord, ofWord, if_neg hne, hword]

end Links

/-- Count down by one, if there is anything left. -/
def countDown? : Nat → Option Nat
  | 0 => none
  | n + 1 => some n

/-- The neighbour of a cell that must exist, read from the word that the link is kept in. -/
def Board.strictNeighbor (board : Board) (i : Nat) (d : Direction) : Option (Option Nat) := do
  let cell ← board.cell? i
  return Links.ofWord (Links.toWord (cell.link d))

namespace Game

/-! ### Combat -/

/-- The enemy next to an ant in a direction. The cell there and the ant on it must exist. -/
def strictEnemyToward (game : Game) (ant : Ant) (d : Direction) : Option (Option Nat) := do
  match ← game.board.strictNeighbor ant.pos d with
  | none => return none
  | some i =>
    let cell ← game.board.cell? i
    match cell.ant with
    | none => return none
    | some other =>
      let enemy ← game.ant? other
      return if enemy.color ≠ ant.color then some other else none

/-- The enemies next to an ant that must exist. -/
def strictAdjacentEnemies (game : Game) (id : Nat) : Option (List Nat) := do
  let ant ← game.ant? id
  let enemies ← Direction.all.mapM (game.strictEnemyToward ant)
  return enemies.filterMap fun enemy => enemy

/-- Whether an ant that must exist is surrounded. Around a dead one nobody looks. -/
def strictIsSurrounded (game : Game) (id : Nat) : Option Bool := do
  let ant ← game.ant? id
  if ant.alive then
    let enemies ← game.strictAdjacentEnemies id
    return surroundLimit ≤ enemies.length
  else return false

/-- Kill an ant that must exist, on a cell that must exist. -/
def strictKill (game : Game) (id : Nat) : Option Game := do
  let ant ← game.ant? id
  let _ ← game.board.cell? ant.pos
  return game.kill id

/-- Kill an ant if it is surrounded. -/
def strictCheckDeath (game : Game) (id : Nat) : Option Game := do
  if ← game.strictIsSurrounded id then game.strictKill id else return game

/-- Check the given ants one after the other. -/
def strictSettle (game : Game) (ids : List Nat) : Option Game := ids.foldlM strictCheckDeath game

/-- Check the ant that has just moved and then the enemies next to it. -/
def strictResolveCombat (game : Game) (mover : Nat) : Option Game := do
  let enemies ← game.strictAdjacentEnemies mover
  game.strictSettle (mover :: enemies)

/-! ### Steps -/

/-- The number of the cell that an ant senses. The cell under the ant must exist, unless it is
itself the one. -/
def strictSensedCell (game : Game) (ant : Ant) : SenseDir → Option (Option Nat)
  | .here => some (some ant.pos)
  | .ahead => game.board.strictNeighbor ant.pos ant.dir
  | .leftAhead => game.board.strictNeighbor ant.pos ant.dir.left
  | .rightAhead => game.board.strictNeighbor ant.pos ant.dir.right

/-- Whether a condition holds on a cell. The cell must exist, and the ant on it, if it names one,
whatever the condition is. -/
def strictSenses (game : Game) (i : Option Nat) (color : Color) (cond : Condition) :
    Option Bool :=
  match i with
  | none => some (cond = .rock)
  | some i => do
    let cell ← game.board.cell? i
    match cell.ant with
    | none => return game.holdsOn cell color cond
    | some other =>
      let _ ← game.ant? other
      return game.holdsOn cell color cond

/-- Execute one instruction for an ant. The cell under the ant must exist where it is looked at,
the cell ahead where the ant would move to it, and the ant itself where its record is changed. -/
def strictExecute (game : Game) (id : Nat) (ant : Ant) (instruction : Instruction) :
    Option (Nat × Game) :=
  match instruction with
  | .sense dir cond onTrue onFalse => do
    let target ← game.strictSensedCell ant dir
    let holds ← game.strictSenses target ant.color cond
    return (if holds then onTrue else onFalse, game)
  | .mark marker next => do
    let _ ← game.board.cell? ant.pos
    return (next, game.placeMark ant marker)
  | .unmark marker next => do
    let _ ← game.board.cell? ant.pos
    return (next, game.clearMark ant marker)
  | .pickUp onSuccess onFail => do
    let cell ← game.board.cell? ant.pos
    let ant ← game.ant? id
    if ant.hasFood || !cell.hasFood then return (onFail, game)
    else return (onSuccess, game.takeFood id ant)
  | .drop next => do
    let ant ← game.ant? id
    if ant.hasFood then
      let _ ← game.board.cell? ant.pos
      return (next, game.layFood id ant)
    else return (next, game)
  | .turn side next => do
    let _ ← game.ant? id
    return (next, game.modifyAnt id fun ant => { ant with dir := side.apply ant.dir })
  | .move onSuccess onFail => do
    match ← game.board.strictNeighbor ant.pos ant.dir with
    | none => return (onFail, game)
    | some dest =>
      let cell ← game.board.cell? dest
      if cell.isAvailable then
        let _ ← game.board.cell? ant.pos
        let _ ← game.ant? id
        let game ← (game.relocate id ant dest).strictResolveCombat id
        return (onSuccess, game)
      else return (onFail, game)
  | .flip bound onZero otherwise => do
    let (n, rng) := game.rng.below bound
    guard (bound = 0 ∨ n < bound)
    return (if n = 0 then onZero else otherwise, { game with rng })

/-- Let a live ant that is awake act. Its brain must have its state, and the ant must still be
there when the next state is noted. -/
def strictAct (game : Game) (id : Nat) (ant : Ant) : Option Game := do
  let instruction ← (game.brain ant.color).get? ant.state
  let (next, game) ← game.strictExecute id ant instruction
  let _ ← game.ant? id
  return game.modifyAnt id ({ · with state := next })

/-- One step of one ant that must exist. -/
def strictStepAnt (game : Game) (id : Nat) : Option Game := do
  let ant ← game.ant? id
  if !ant.alive then return game
  else if ant.isResting then
    let resting ← countDown? ant.resting
    return game.modifyAnt id ({ · with resting })
  else game.strictAct id ant

/-- One tick. -/
def strictTick (game : Game) : Option Game := do
  let game ← (List.range game.ants.size).foldlM strictStepAnt game
  return { game with ticks := game.ticks + 1 }

/-- A number of ticks. -/
def strictRun : Nat → Game → Option Game
  | 0, game => some game
  | n + 1, game => do
    let game ← game.strictTick
    strictRun n game

end Game

end Formicary
