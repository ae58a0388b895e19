import Formicary.Ant
import Formicary.Board.Basic
import Formicary.Brain.Basic
import Formicary.Game.Event
import Formicary.Rng

/-!
# Games

The state of a game: the board, the ants with the brains of their colonies, and the generator.
Ants are numbered by their place in the array of ants. A cell names the ant on it by number and
an ant names its cell by number, and `Game.start` sets up both sides.
-/

namespace Formicary

/-- The state of a game. -/
structure Game where
  /-- The board. -/
  board : Board
  /-- The ants of both colonies, dead ones included, by number. -/
  ants : Array Ant
  /-- The brain of the red colony. -/
  redBrain : Brain
  /-- The brain of the black colony. -/
  blackBrain : Brain
  /-- The generator. -/
  rng : Rng
  /-- The number of ticks completed. -/
  ticks : Nat := 0
  /-- The recorder of events. -/
  recorder : Recorder := {}
  deriving DecidableEq

namespace Game

/-- The brain of a colony. -/
def brain (game : Game) : Color → Brain
  | .red => game.redBrain
  | .black => game.blackBrain

/-- The ant with a given number. -/
def ant? (game : Game) (id : Nat) : Option Ant := game.ants[id]?

/-- Change the ant with a given number. -/
def modifyAnt (game : Game) (id : Nat) (f : Ant → Ant) : Game :=
  { game with ants := game.ants.modify id f }

/-- Change the cell with a given number. -/
def modifyCell (game : Game) (i : Nat) (f : Cell → Cell) : Game :=
  { game with board := game.board.modify i f }

/-- Hand an event to the recorder. -/
def record (game : Game) (event : Event) : Game :=
  { game with recorder := game.recorder.record event }

/-- Hand the recorder an event that is about a cell as it is now. -/
def recordAt (game : Game) (i : Nat) (event : Cell → Event) : Game :=
  match game.board.cell? i with
  | some cell => game.record (event cell)
  | none => game

/-- The event that the food on a cell has become what it is. -/
def foodEvent (cell : Cell) : Event := .foodChanged cell.row cell.col cell.food

/-- If a cell is a hill, let an ant of its colony hatch there, with the next free number. -/
def hatch (spawned : Board × Array Ant) (i : Nat) : Board × Array Ant :=
  let (board, ants) := spawned
  match (board.cell? i).bind (·.terrain.hillColor?) with
  | some color => (board.modify i (·.setAnt ants.size), ants.push (.spawn ants.size color i))
  | none => (board, ants)

/-- Start a game on a board: one ant hatches on every hill cell, in the order of the cells. -/
def start (redBrain blackBrain : Brain) (board : Board) (rng : Rng) : Game :=
  let (board, ants) := (List.range board.cells.size).foldl hatch (board, #[])
  { board, ants, redBrain, blackBrain, rng }

/-- Switch the recorder on or off. -/
def setRecording (game : Game) (active : Bool) : Game :=
  { game with recorder := game.recorder.setActive active }

/-- Forget the events recorded so far. -/
def clearEvents (game : Game) : Game := { game with recorder := game.recorder.clear }

/-- Only the ant that is changed differs afterwards. -/
theorem ant?_modifyAnt (game : Game) (id other : Nat) (f : Ant → Ant) :
    (game.modifyAnt id f).ant? other =
      if id = other then (game.ant? other).map f else game.ant? other := by
  simp only [modifyAnt, ant?, Array.getElem?_modify]

/-- Telling the recorder changes nothing but the recorder. -/
theorem recordAt_eq (game : Game) (i : Nat) (event : Cell → Event) :
    ∃ recorder, game.recordAt i event = { game with recorder } := by
  rw [recordAt]
  split
  · exact ⟨_, rfl⟩
  · exact ⟨game.recorder, rfl⟩

end Game

end Formicary
