import Formicary.Ant
import Formicary.Game.Event
import Formicary.Proofs.Board.Ground
import Mathlib.Logic.Function.Basic

/-!
# Transfers between boards

Two boards may be alike but for the names of things: the colonies have changed their colours, or
the cells have other numbers and lie in other rows and columns. A `Transfer` says how what belongs
to one board is called on the other one, and carries over cells, ants and events.

Nothing that is done to a cell or read from it depends on the names. So all operations on cells
commute with a transfer (`cell_depositFood`, `cell_addMarker` and so on), and all that is read from
a cell that is carried over is what is read from the cell (`hasMarker_cell` and so on).
-/

namespace Formicary

/-- How the colonies and cells of one board are called on another one. -/
structure Transfer where
  /-- The colony that a colony becomes. -/
  color : Color → Color := id
  /-- The number that the cell with a given number has. -/
  place : Nat → Nat := id
  /-- The number of rows by which cells are moved down. -/
  rows : Nat := 0
  /-- The number of columns by which cells are moved to the right. -/
  cols : Nat := 0
  /-- The links of a cell, from its row, its column and its links on the first board. -/
  links : Nat → Nat → Links → Links := fun _ _ links => links
  /-- Colours are exchanged or kept. -/
  color_color : ∀ c, color (color c) = c := by intro c; rfl

namespace Transfer

/-- Everything is called what it is called. -/
def same : Transfer := {}

variable (t : Transfer)

/-- What terrain becomes. -/
def terrain : Terrain → Terrain
  | .rock => .rock
  | .clear => .clear
  | .hill c => .hill (t.color c)

/-- What a cell becomes. -/
def cell (cell : Cell) : Cell where
  row := cell.row + t.rows
  col := cell.col + t.cols
  terrain := t.terrain cell.terrain
  links := t.links cell.row cell.col cell.links
  food := cell.food
  redMarks := cell.marks (t.color .red)
  blackMarks := cell.marks (t.color .black)
  ant := cell.ant

/-- What an ant becomes. -/
def ant (ant : Ant) : Ant := { ant with color := t.color ant.color, pos := t.place ant.pos }

/-- What an event becomes. -/
def event : Event → Event
  | .markerPlaced row col c marker => .markerPlaced (row + t.rows) (col + t.cols) (t.color c) marker
  | .markerRemoved row col c marker =>
    .markerRemoved (row + t.rows) (col + t.cols) (t.color c) marker
  | .foodChanged row col food => .foodChanged (row + t.rows) (col + t.cols) food
  | .antKilled id c row col => .antKilled id (t.color c) (row + t.rows) (col + t.cols)

/-- What a recorder becomes. -/
def recorder (recorder : Recorder) : Recorder :=
  { recorder with log := recorder.log.map t.event }

variable (own : Cell) (c : Color) (marker id : Nat) (amount : UInt32)

@[simp]
theorem cell_same : same.cell own = own := by
  obtain ⟨row, col, terrain, links, food, redMarks, blackMarks, ant⟩ := own
  cases terrain <;> rfl

@[simp]
theorem event_same (event : Event) : same.event event = event := by
  cases event <;> rfl

/-! ### Colours -/

theorem color_injective : Function.Injective t.color :=
  Function.LeftInverse.injective t.color_color

/-- Different colonies become different ones. -/
theorem color_other : t.color c.other = (t.color c).other := by
  refine Color.eq_of_ne_of_ne (fun h => ?_) (Color.other_ne _)
  exact c.other_ne (t.color_injective h)

/-! ### Reading from a cell -/

theorem terrain_eq_rock_iff (ground : Terrain) : t.terrain ground = .rock ↔ ground = .rock := by
  cases ground <;> simp [terrain]

@[simp]
theorem isRock_cell : (t.cell own).isRock = own.isRock := by
  rw [Cell.isRock, Cell.isRock, decide_eq_decide]
  exact t.terrain_eq_rock_iff own.terrain

@[simp]
theorem hasFood_cell : (t.cell own).hasFood = own.hasFood := rfl

@[simp]
theorem ant_cell : (t.cell own).ant = own.ant := rfl

@[simp]
theorem isAvailable_cell : (t.cell own).isAvailable = own.isAvailable := by
  rw [Cell.isAvailable, isRock_cell, ant_cell, Cell.isAvailable]

theorem hillColor?_terrain (ground : Terrain) :
    (t.terrain ground).hillColor? = ground.hillColor?.map t.color := by
  cases ground <;> rfl

theorem terrain_cell_eq_hill_iff :
    (t.cell own).terrain = .hill (t.color c) ↔ own.terrain = .hill c := by
  simp only [cell]
  cases own.terrain with
  | rock | clear => simp [terrain]
  | hill other => simp [terrain, t.color_injective.eq_iff]

/-- The markers of a colony are those of the colony that it has become. -/
theorem marks_cell : (t.cell own).marks c = own.marks (t.color c) := by
  cases c <;> rfl

@[simp]
theorem hasMarker_cell :
    (t.cell own).hasMarker (t.color c) marker = own.hasMarker c marker := by
  rw [Cell.hasMarker, marks_cell, t.color_color, Cell.hasMarker]

@[simp]
theorem hasAnyMarker_cell : (t.cell own).hasAnyMarker (t.color c) = own.hasAnyMarker c := by
  rw [Cell.hasAnyMarker, marks_cell, t.color_color, Cell.hasAnyMarker]

/-! ### Changing a cell -/

theorem cell_depositFood : (t.cell own).depositFood amount = t.cell (own.depositFood amount) := by
  rw [Cell.depositFood, Cell.depositFood, isRock_cell]
  split
  · rfl
  · rfl

theorem cell_removeFood : (t.cell own).removeFood = t.cell own.removeFood := by
  have hfood : (t.cell own).food = own.food := rfl
  rw [Cell.removeFood, Cell.removeFood, hfood]
  split
  · rfl
  · rfl

theorem cell_setMarks (marks : UInt8) :
    (t.cell own).setMarks (t.color c) marks = t.cell (own.setMarks c marks) := by
  have hblack : t.color .black = (t.color .red).other := t.color_other .red
  -- Colours are kept or exchanged, and in both cases the same byte is replaced.
  cases hred : t.color .red <;> rw [hred] at hblack <;>
    cases c <;> simp [cell, Cell.setMarks, Cell.marks, Color.other, hred, hblack]

theorem cell_addMarker :
    (t.cell own).addMarker (t.color c) marker = t.cell (own.addMarker c marker) := by
  rw [Cell.addMarker, Cell.addMarker, isRock_cell]
  split
  · rw [marks_cell, t.color_color, cell_setMarks]
  · rfl

theorem cell_removeMarker :
    (t.cell own).removeMarker (t.color c) marker = t.cell (own.removeMarker c marker) := by
  rw [Cell.removeMarker, Cell.removeMarker]
  split
  · rw [marks_cell, t.color_color, cell_setMarks]
  · rfl

theorem cell_setAnt : (t.cell own).setAnt id = t.cell (own.setAnt id) := by
  rw [Cell.setAnt, Cell.setAnt, isRock_cell]
  split
  · rfl
  · rfl

theorem cell_removeAnt : (t.cell own).removeAnt = t.cell own.removeAnt := rfl

/-! ### Recording -/

theorem recorder_empty : t.recorder {} = {} := by
  rw [recorder, Array.map_empty]

theorem recorder_record (recorder : Recorder) (event : Event) :
    (t.recorder recorder).record (t.event event) = t.recorder (recorder.record event) := by
  have hactive : (t.recorder recorder).active = recorder.active := rfl
  rw [Recorder.record, Recorder.record, hactive]
  split
  · simp [Transfer.recorder]
  · rfl

end Transfer

end Formicary
