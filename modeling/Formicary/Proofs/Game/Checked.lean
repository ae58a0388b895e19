import Formicary.Game.Score
import Formicary.Proofs.Game.Change

/-!
# The game with checked arithmetic

Amounts of food are words of 32 bits, so that a sum may wrap around. The definitions here follow
the steps of the game operation by operation, but give up where an addition or subtraction of food
leaves the range. That such a step comes to a result, and to the same one, says that nothing has
wrapped. `Food.lean` shows this for the steps of every game with little enough food in it.
-/

namespace Formicary

/-- The sum of two amounts of food, if it is in range. -/
def checkedAdd? (a b : UInt32) : Option UInt32 :=
  if a.toNat + b.toNat < UInt32.size then some (a + b) else none

/-- The difference of two amounts of food, if it is in range. -/
def checkedSub? (a b : UInt32) : Option UInt32 :=
  if b.toNat ≤ a.toNat then some (a - b) else none

namespace Cell

/-- Lay down food, with a check of the sum. -/
def depositFood? (cell : Cell) (amount : UInt32) : Option Cell :=
  if cell.isRock then some cell
  else (checkedAdd? cell.food amount).map fun food => { cell with food }

/-- Take away one unit of food, if there is any, with a check of the difference. -/
def removeFood? (cell : Cell) : Option Cell :=
  if 0 < cell.food then (checkedSub? cell.food 1).map fun food => { cell with food }
  else some cell

variable {cell : Cell} {amount : UInt32}

theorem depositFood?_eq (h : cell.food.toNat + amount.toNat < UInt32.size) :
    cell.depositFood? amount = some (cell.depositFood amount) := by
  rw [depositFood?, depositFood, checkedAdd?, if_pos h]
  split <;> rfl

theorem removeFood?_eq (cell : Cell) : cell.removeFood? = some cell.removeFood := by
  rw [removeFood?, removeFood]
  split
  next h =>
    have hle : (1 : UInt32).toNat ≤ cell.food.toNat := UInt32.lt_iff_toNat_lt.1 h
    rw [checkedSub?, if_pos hle, Option.map_some]
  next => rfl

end Cell

/-- There is nothing to change where there is no element. -/
theorem array_modify_eq_self {α : Type} {xs : Array α} {i : Nat} {f : α → α}
    (h : xs[i]? = none) : xs.modify i f = xs := by
  refine Array.ext_getElem? fun j => ?_
  rw [Array.getElem?_modify]
  split
  next hij => rw [← hij, h, Option.map_none]
  next => rfl

/-- To change nothing about an element changes nothing. -/
theorem array_modify_id {α : Type} (xs : Array α) (i : Nat) : xs.modify i (fun a => a) = xs := by
  refine Array.ext_getElem? fun j => ?_
  rw [Array.getElem?_modify]
  split
  · exact Option.map_id'
  · rfl

/-- Changes that agree on an element do the same to it. -/
theorem array_modify_congr {α : Type} {xs : Array α} {i : Nat} {f g : α → α}
    (h : ∀ a, xs[i]? = some a → f a = g a) : xs.modify i f = xs.modify i g := by
  refine Array.ext_getElem? fun j => ?_
  rw [Array.getElem?_modify, Array.getElem?_modify]
  split
  next hij =>
    subst hij
    exact Option.map_congr h
  next => rfl

namespace Board

/-- Changes that agree on a cell do the same to it. -/
theorem modify_congr (board : Board) {i : Nat} {f g : Cell → Cell}
    (h : ∀ cell, board.cell? i = some cell → f cell = g cell) :
    board.modify i f = board.modify i g := by
  rw [modify, modify, array_modify_congr h]

/-- There is nothing to change where there is no cell. -/
theorem modify_eq_self (board : Board) {i : Nat} {f : Cell → Cell} (h : board.cell? i = none) :
    board.modify i f = board := by
  rw [modify, array_modify_eq_self h]

end Board

namespace Game

/-- Change a cell, if the change comes to a result. -/
def modifyCell? (game : Game) (i : Nat) (f : Cell → Option Cell) : Option Game :=
  match game.board.cell? i with
  | some cell => (f cell).map fun cell => game.modifyCell i fun _ => cell
  | none => some game

/-- Kill an ant, with checked sums. -/
def kill? (game : Game) (id : Nat) : Option Game :=
  match game.ant? id with
  | none => some game
  | some ant => do
    let amount ← checkedAdd? (UInt32.ofNat deathFood) (UInt32.ofNat ant.food)
    let game ← game.modifyCell? ant.pos fun cell => (cell.depositFood? amount).map Cell.removeAnt
    let game := game.modifyAnt id Ant.die
    let game := game.recordAt ant.pos foodEvent
    return game.recordAt ant.pos fun cell => .antKilled id ant.color cell.row cell.col

/-- Kill an ant if it is surrounded, with checked sums. -/
def checkDeath? (game : Game) (id : Nat) : Option Game :=
  if game.isSurrounded id then game.kill? id else some game

/-- Check the given ants one after the other, with checked sums. -/
def settle? (game : Game) (ids : List Nat) : Option Game := ids.foldlM checkDeath? game

/-- Let an ant take up a unit of food, with a checked difference. -/
def takeFood? (game : Game) (id : Nat) (ant : Ant) : Option Game := do
  let game ← game.modifyCell? ant.pos Cell.removeFood?
  return (game.modifyAnt id ({ · with hasFood := true })).recordAt ant.pos foodEvent

/-- Let an ant lay down the unit of food that it carries, with a checked sum. -/
def layFood? (game : Game) (id : Nat) (ant : Ant) : Option Game := do
  let game ← game.modifyCell? ant.pos (·.depositFood? 1)
  return (game.modifyAnt id ({ · with hasFood := false })).recordAt ant.pos foodEvent

/-- Execute one instruction, with checked arithmetic on food. -/
def execute? (game : Game) (id : Nat) (ant : Ant) (instruction : Instruction) :
    Option (Nat × Game) :=
  match instruction with
  | .pickUp onSuccess onFail =>
    if game.canPickUp ant then (game.takeFood? id ant).map (onSuccess, ·) else some (onFail, game)
  | .drop next =>
    if ant.hasFood then (game.layFood? id ant).map (next, ·) else some (next, game)
  | .move onSuccess onFail =>
    match game.openAhead? ant with
    | some dest =>
      let game := game.relocate id ant dest
      (game.settle? (id :: game.adjacentEnemies id)).map (onSuccess, ·)
    | none => some (onFail, game)
  | instruction => some (game.execute id ant instruction)

/-- Let a live ant that is awake act, with checked arithmetic on food. -/
def act? (game : Game) (id : Nat) (ant : Ant) : Option Game :=
  match (game.brain ant.color).get? ant.state with
  | some instruction => do
    let (next, game) ← game.execute? id ant instruction
    return game.modifyAnt id ({ · with state := next })
  | none => some game

/-- One step of one ant, with checked arithmetic on food. -/
def stepAnt? (game : Game) (id : Nat) : Option Game :=
  match game.ant? id with
  | none => some game
  | some ant =>
    if !ant.alive then some game
    else if ant.isResting then
      some (game.modifyAnt id fun ant => { ant with resting := ant.resting - 1 })
    else game.act? id ant

/-- The food on a colony's hill, with checked sums. -/
def hillFood? (game : Game) (color : Color) : Option UInt32 :=
  (game.board.hillCells color).foldlM
    (fun sum i => match game.board.cell? i with
      | some cell => checkedAdd? sum cell.food
      | none => some sum)
    0

variable {game : Game} {id : Nat} {ant : Ant}

/-- A change of a cell that comes to the result of another one is the other one. -/
theorem modifyCell?_eq {i : Nat} {f? : Cell → Option Cell} {f : Cell → Cell}
    (h : ∀ cell, game.board.cell? i = some cell → f? cell = some (f cell)) :
    game.modifyCell? i f? = some (game.modifyCell i f) := by
  rw [modifyCell?]
  split
  next cell hcell =>
    rw [h cell hcell, Option.map_some, modifyCell, modifyCell, game.board.modify_congr]
    intro cell' hcell'
    rw [Option.some.inj (hcell.symm.trans hcell')]
  next hcell => rw [modifyCell, game.board.modify_eq_self hcell]

/-- What a dead ant leaves is the sum of its parts. -/
theorem toNat_deathAmount (ant : Ant) : (deathAmount ant).toNat = deathFood + ant.food := by
  rw [deathAmount, Ant.food]
  split <;> rfl

/-- There is no harm in taking up food. -/
theorem takeFood?_eq (game : Game) (id : Nat) (ant : Ant) :
    game.takeFood? id ant = some (game.takeFood id ant) := by
  rw [takeFood?, modifyCell?_eq fun cell _ => cell.removeFood?_eq]
  rfl

/-- Laying down food is checked if there is room for one more unit. -/
theorem layFood?_eq
    (h : ∀ cell, game.board.cell? ant.pos = some cell → cell.food.toNat + 1 < UInt32.size) :
    game.layFood? id ant = some (game.layFood id ant) := by
  rw [layFood?, modifyCell?_eq fun cell hcell => Cell.depositFood?_eq (h cell hcell)]
  rfl

/-- Killing an ant is checked if there is room for what it leaves. -/
theorem kill?_eq (hant : game.ant? id = some ant)
    (h : ∀ cell, game.board.cell? ant.pos = some cell →
      cell.food.toNat + (deathFood + ant.food) < UInt32.size) :
    game.kill? id = some (game.kill id) := by
  have hamount : checkedAdd? (UInt32.ofNat deathFood) (UInt32.ofNat ant.food) =
      some (deathAmount ant) := by
    rw [deathAmount, Ant.food]
    split <;> rfl
  have hcell : ∀ cell, game.board.cell? ant.pos = some cell →
      (cell.depositFood? (deathAmount ant)).map Cell.removeAnt =
        some ((cell.depositFood (deathAmount ant)).removeAnt) := by
    intro cell hcell
    have hroom : cell.food.toNat + (deathAmount ant).toNat < UInt32.size := by
      rw [toNat_deathAmount]
      exact h cell hcell
    rw [Cell.depositFood?_eq hroom, Option.map_some]
  simp only [kill?, kill, hant, hamount, Option.bind_eq_bind, Option.bind_some,
    modifyCell?_eq hcell]
  rfl

end Game

end Formicary
