import Formicary.Proofs.Game.Confinement
import Formicary.Proofs.World.RoundTrip

/-!
# Ants never come upon the end of the board

A world that is read is enclosed by rock, so all cells around open ground lie inside it
(`WorldMap.Closed`), and ants keep to open ground. So an ant, dead or alive, is always on a cell
with all six neighbours (`Enclosed.exists_neighbor?`).

A game has ways to go on where a neighbour is missing: what an ant senses there is rock, it cannot
move there, and no enemy stands there. The definitions here follow a game as far as it never needs
them, and give up as soon as an ant looks beyond the end of the board. In an enclosed world no game
gives up (`Enclosed.runInside?_eq`).
-/

namespace Formicary

namespace WorldMap

variable {world : WorldMap} {x : Hex}

/-- All cells next to open ground lie inside the world. -/
def Closed (world : WorldMap) : Prop :=
  ∀ x ∈ world.openCells, ∀ d : Direction, world.Contains (d.step x)

/-- If the edge is rock, open ground is at least one step away from the end of the world. -/
theorem closed_of_edge (hedge : ∀ x ∈ world.edge, world.tile? x = some .rock) : world.Closed := by
  rintro x ⟨tile, htile, hrock⟩ d
  have hinside := contains_of_tile? htile
  have hoff : x ∉ world.edge := by
    intro hmem
    rw [hedge x hmem, Option.some.injEq] at htile
    exact hrock htile.symm
  obtain ⟨hrow₀, hrow, hcol₀, hcol⟩ := id hinside
  have hinner : ¬(x.row = 0 ∨ x.row = world.height - 1 ∨ x.col = 0 ∨ x.col = world.width - 1) :=
    fun hside => hoff ⟨hinside, hside⟩
  -- A step changes row and column by one at most, on rows of both parities.
  have hparity := Int.emod_two_eq x.row
  cases d <;> simp only [Frame.Contains, Direction.step, Direction.offset] <;> omega

/-- In every world that is read, all cells next to open ground lie inside. -/
theorem closed_of_parse {source : String} {contest : Bool}
    (h : parse source contest = .ok world) : world.Closed :=
  closed_of_edge (drawable_of_parse h).edge

end WorldMap

namespace Game

/-! ### Games that stay inside -/

/-- The enemy next to an ant, if there is a cell where it is looked for. -/
def enemyInside? (game : Game) (ant : Ant) (d : Direction) : Option (Option Nat) := do
  let _ ← game.board.neighbor? ant.pos d
  return game.enemyToward? ant d

/-- The enemies next to an ant, if it has six neighbours. -/
def enemiesInside? (game : Game) (id : Nat) : Option (List Nat) :=
  match game.ant? id with
  | some ant => do
    let enemies ← Direction.all.mapM (game.enemyInside? ant)
    return enemies.filterMap fun enemy => enemy
  | none => return []

/-- Whether an ant is surrounded. Around a dead one nobody looks. -/
def surroundedInside? (game : Game) (id : Nat) : Option Bool :=
  match game.ant? id with
  | some ant =>
    if ant.alive then do
      let enemies ← game.enemiesInside? id
      return surroundLimit ≤ enemies.length
    else return false
  | none => return false

/-- Kill an ant if it is surrounded. -/
def checkInside? (game : Game) (id : Nat) : Option Game := do
  return if ← game.surroundedInside? id then game.kill id else game

/-- Check the given ants one after the other. -/
def settleInside? (game : Game) (ids : List Nat) : Option Game := ids.foldlM checkInside? game

/-- Check the ant that has just moved and then the enemies next to it. -/
def combatInside? (game : Game) (mover : Nat) : Option Game := do
  let enemies ← game.enemiesInside? mover
  game.settleInside? (mover :: enemies)

/-- Execute one instruction for an ant, if there is a cell where it looks. Only to sense and to move
it looks at other cells than its own. -/
def executeInside? (game : Game) (id : Nat) (ant : Ant) (instruction : Instruction) :
    Option (Nat × Game) :=
  match instruction with
  | .sense dir cond onTrue onFalse => do
    let target ← game.sensedCell? ant dir
    return (if game.senses (some target) ant.color cond then onTrue else onFalse, game)
  | .move onSuccess onFail => do
    let _ ← game.board.neighbor? ant.pos ant.dir
    match game.openAhead? ant with
    | some dest =>
      let game ← (game.relocate id ant dest).combatInside? id
      return (onSuccess, game)
    | none => return (onFail, game)
  | instruction => return game.execute id ant instruction

/-- Let a live ant that is awake execute the instruction of its state. -/
def actInside? (game : Game) (id : Nat) (ant : Ant) : Option Game :=
  match (game.brain ant.color).get? ant.state with
  | some instruction => do
    let (next, game) ← game.executeInside? id ant instruction
    return game.modifyAnt id ({ · with state := next })
  | none => return game

/-- One step of one ant. -/
def stepInside? (game : Game) (id : Nat) : Option Game :=
  match game.ant? id with
  | none => return game
  | some ant =>
    if !ant.alive then return game
    else if ant.isResting then
      return game.modifyAnt id fun ant => { ant with resting := ant.resting - 1 }
    else game.actInside? id ant

/-- One tick. -/
def tickInside? (game : Game) : Option Game := do
  let game ← (List.range game.ants.size).foldlM stepInside? game
  return { game with ticks := game.ticks + 1 }

/-- A number of ticks. -/
def runInside? : Nat → Game → Option Game
  | 0, game => some game
  | n + 1, game => do
    let game ← game.tickInside?
    runInside? n game

/-! ### Enclosed games -/

variable {world : WorldMap} {game : Game} {id : Nat} {ant : Ant}

namespace Enclosed

section Closed

variable (hclosed : world.Closed)

include hclosed

/-- Every ant, dead or alive, has a neighbouring cell in every direction. -/
theorem exists_neighbor? (h : game.Enclosed world) (hant : game.ant? id = some ant)
    (d : Direction) : ∃ j, game.board.neighbor? ant.pos d = some j := by
  obtain ⟨cell, hcell, -⟩ := h.agrees.grounded hant
  have hinside := hclosed _ (h.mem_openCells hant) d
  rw [← h.laidOut.toFrame_eq] at hinside
  exact ⟨_, h.laidOut.wired.neighbor?_eq_some_iff.2
    ⟨h.laidOut.wired.lt_of_cell? hcell, if_pos hinside⟩⟩

theorem enemyInside?_eq (h : game.Enclosed world) (hant : game.ant? id = some ant)
    (d : Direction) : game.enemyInside? ant d = some (game.enemyToward? ant d) := by
  obtain ⟨j, hlink⟩ := h.exists_neighbor? hclosed hant d
  rw [enemyInside?, hlink]
  rfl

theorem enemiesInside?_eq (h : game.Enclosed world) (id : Nat) :
    game.enemiesInside? id = some (game.adjacentEnemies id) := by
  rw [enemiesInside?, adjacentEnemies]
  cases hant : game.ant? id with
  | none => rfl
  | some ant =>
    have hall : Direction.all.mapM (game.enemyInside? ant) =
        some (Direction.all.map (game.enemyToward? ant)) := by
      rw [funext (h.enemyInside?_eq hclosed hant)]
      exact List.mapM_pure
    simp only [hall, Option.bind_eq_bind, Option.bind_some, Option.pure_def, List.filterMap_map]
    rfl

theorem surroundedInside?_eq (h : game.Enclosed world) (id : Nat) :
    game.surroundedInside? id = some (game.isSurrounded id) := by
  rw [surroundedInside?, isSurrounded]
  cases game.ant? id with
  | none => rfl
  | some ant =>
    simp only [h.enemiesInside?_eq hclosed, Option.bind_eq_bind, Option.bind_some]
    cases ant.alive <;> rfl

/-- Whoever is checked, before or after others have died, has six neighbours. -/
theorem settleInside?_eq {ids : List Nat} (h : game.Enclosed world) :
    game.settleInside? ids = some (game.settle ids) := by
  refine foldlM_eq_some (P := Enclosed world) (fun {game} h id _ => ⟨?_, ?_⟩) h
  · rw [checkInside?, h.surroundedInside?_eq hclosed]
    rfl
  · exact (changes_settle game [id]).enclosed h

theorem combatInside?_eq (h : game.Enclosed world) (id : Nat) :
    game.combatInside? id = some (game.resolveCombat id) := by
  rw [combatInside?, h.enemiesInside?_eq hclosed, Option.bind_eq_bind, Option.bind_some,
    h.settleInside?_eq hclosed, resolveCombat]

/-- What an ant senses is a cell. -/
theorem exists_sensedCell? (h : game.Enclosed world) (hant : game.ant? id = some ant)
    (dir : SenseDir) : ∃ i, game.sensedCell? ant dir = some i := by
  cases dir with
  | here => exact ⟨ant.pos, rfl⟩
  | ahead | leftAhead | rightAhead => exact h.exists_neighbor? hclosed hant _

/-- No instruction needs a way to go on where a neighbour is missing. -/
theorem executeInside?_eq (h : game.Enclosed world) (hant : game.ant? id = some ant)
    (halive : ant.alive = true) (instruction : Instruction) :
    game.executeInside? id ant instruction = some (game.execute id ant instruction) := by
  cases instruction with
  | sense dir cond onTrue onFalse =>
    obtain ⟨i, hi⟩ := h.exists_sensedCell? hclosed hant dir
    rw [executeInside?, execute, hi]
    rfl
  | move onSuccess onFail =>
    obtain ⟨j, hlink⟩ := h.exists_neighbor? hclosed hant ant.dir
    rw [executeInside?, execute, hlink]
    cases hopen : game.openAhead? ant with
    | none => rfl
    | some dest =>
      -- The enemies are looked for from the cell that the ant has moved to.
      have hmoved := (Change.relocate hant halive hopen).enclosed h
      simp only [hmoved.combatInside?_eq hclosed]
      rfl
  | mark | unmark | pickUp | drop | turn | flip => rfl

/-- No step needs a way to go on where a neighbour is missing. -/
theorem stepInside?_eq (h : game.Enclosed world) (id : Nat) :
    game.stepInside? id = some (game.stepAnt id) := by
  -- Both steps branch alike, and they could part only in the instruction.
  rw [stepInside?, stepAnt]
  cases hant : game.ant? id with
  | none => rfl
  | some ant =>
    cases halive : ant.alive with
    | false =>
      simp only [halive, Bool.not_false, ↓reduceIte]
      rfl
    | true =>
      simp only [halive, Bool.not_true, Bool.false_eq_true, ↓reduceIte]
      split
      next => rfl
      next =>
        rw [actInside?, act]
        cases (game.brain ant.color).get? ant.state with
        | none => rfl
        | some instruction =>
          simp only [h.executeInside?_eq hclosed hant halive instruction]
          rfl

/-- No tick needs a way to go on where a neighbour is missing. -/
theorem tickInside?_eq (h : game.Enclosed world) : game.tickInside? = some game.tick := by
  have hsteps : (List.range game.ants.size).foldlM stepInside? game =
      some ((List.range game.ants.size).foldl stepAnt game) :=
    foldlM_eq_some (P := Enclosed world) (fun {game} h id _ =>
      ⟨h.stepInside?_eq hclosed id, (changes_stepAnt game id).enclosed h⟩) h
  rw [tickInside?, hsteps]
  rfl

/-- No run needs a way to go on where a neighbour is missing. -/
theorem runInside?_eq (h : game.Enclosed world) (n : Nat) :
    game.runInside? n = some (game.run n) := by
  induction n generalizing game with
  | zero => rfl
  | succ n ih =>
    rw [runInside?, h.tickInside?_eq hclosed, Option.bind_eq_bind, Option.bind_some,
      ih (Reachable.refl.tick.enclosed h), run]

end Closed

end Enclosed

end Game

/-- An ant is enclosed by the world in which it hatched. -/
structure Ant.Enclosed (ant : Ant) (world : WorldMap) (board : Board) (hill : Nat) : Prop where
  /-- The ant hatched on the hill of its colony. -/
  hatched : world.tile? (world.hex hill) = some (.hill ant.color)
  /-- A way over open ground leads from there to the ant. -/
  joined : Hex.Joined world.openCells (world.hex hill) (world.hex ant.pos)
  /-- The ant is on a cell that is no rock. -/
  grounded : ∃ cell, board.cell? ant.pos = some cell ∧ cell.isRock = false
  /-- The cell is linked to its neighbours in all six directions. -/
  neighbor : ∀ d : Direction, ∃ j, board.neighbor? ant.pos d = some j ∧
    world.hex j = d.step (world.hex ant.pos)

namespace Game

variable {world : WorldMap}

/-- In a world that was read, every ant, dead or alive, is always on ground to which a way leads
from the hill cell on which it hatched, and all six neighbours of its cell exist. So a game never
needs a way to go on where a neighbour is missing, neither in a whole run nor in a single step from
a state that it can come to. -/
theorem ants_stay_enclosed {source : String} {contest : Bool}
    (hparse : WorldMap.parse source contest = .ok world) (redBrain blackBrain : Brain) (rng : Rng) :
    let first := start redBrain blackBrain (.ofMap world) rng
    (∀ game, Reachable first game → ∀ id ant, game.ant? id = some ant →
      ∃ hatched, first.ant? id = some hatched ∧ ant.Enclosed world game.board hatched.pos) ∧
      (∀ game, Reachable first game → ∀ id, game.stepInside? id = some (game.stepAnt id)) ∧
      ∀ n, first.runInside? n = some (first.run n) := by
  intro first
  have hclosed := WorldMap.closed_of_parse hparse
  have hfirst : first.Enclosed world := enclosed_start ..
  refine ⟨fun game hreach id ant hant => ?_, fun game hreach => ?_, hfirst.runInside?_eq hclosed⟩
  · have hgame := hreach.enclosed hfirst
    obtain ⟨hill, hhill, hjoined⟩ := hgame.confined hant
    have hhatched : first.ant? id = some (.spawn id ant.color hill) := by
      rw [ant?_start, Board.hills_ofMap, hhill]
      rfl
    refine ⟨_, hhatched, ⟨?_, hjoined, hgame.agrees.grounded hant, fun d => ?_⟩⟩
    · exact WorldMap.tile?_of_mem_hills (List.mem_of_getElem? hhill)
    · obtain ⟨j, hlink⟩ := hgame.exists_neighbor? hclosed hant d
      exact ⟨j, hlink, hgame.laidOut.hex_of_neighbor? hlink⟩
  · exact (hreach.enclosed hfirst).stepInside?_eq hclosed

/-- On the small world the red ant walks east until the rock at the edge stops it. It still has six
neighbours there, the one ahead of it among them. -/
theorem ants_stay_enclosed_clearing :
    let source := "5\n5\n# # # # #\n # + . 9 #\n# . 3 - #\n # . . . #\n# # # # #\n"
    let first := start ⟨#[.move 0 0]⟩ ⟨#[.turn .left 0]⟩ (.ofMap WorldMap.clearing) (.ofSeed 0)
    let walker : Ant := { id := 0, color := .red, pos := 8 }
    WorldMap.parse source false = .ok WorldMap.clearing ∧ (first.run 40).ant? 0 = some walker ∧
      walker.Enclosed WorldMap.clearing (first.run 40).board 6 ∧
      first.runInside? 40 = some (first.run 40) := by
  intro source first walker
  have hparse : WorldMap.parse source false = .ok WorldMap.clearing := by decide +kernel
  have hwalker : (first.run 40).ant? 0 = some walker := by decide +kernel
  obtain ⟨hants, -, hrun⟩ := ants_stay_enclosed hparse ⟨#[.move 0 0]⟩ ⟨#[.turn .left 0]⟩ (.ofSeed 0)
  obtain ⟨hatched, hfirst, henclosed⟩ := hants _ (.run 40 .refl) 0 walker hwalker
  have hpos : hatched.pos = 6 := by
    have hred : first.ant? 0 = some (.spawn 0 .red 6) := by decide +kernel
    obtain rfl := Option.some.inj (hred.symm.trans hfirst)
    rfl
  exact ⟨hparse, hwalker, hpos ▸ henclosed, hrun 40⟩

end Game

end Formicary
