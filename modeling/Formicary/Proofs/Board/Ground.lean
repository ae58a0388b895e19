import Formicary.Board.Basic

/-!
# The ground of a board

Food, markers and ants come and go; where a cell lies, what it is made of and which neighbours it
has stay as the board was laid out. `Cell.ground` and `Board.ground` strip off all that comes and
goes, so that "nothing else changes" is an equation between grounds. Links, rock and hills can be
read off the ground alone (`Board.neighbor?_eq_of_ground`, `Cell.isRock_eq_of_ground`).
-/

namespace Formicary

namespace Cell

/-- The cell without anything lying or standing on it. -/
def ground (cell : Cell) : Cell :=
  { cell with food := 0, redMarks := 0, blackMarks := 0, ant := none }

variable {cell cell' : Cell}

@[simp]
theorem ground_depositFood (cell : Cell) (amount : UInt32) :
    (cell.depositFood amount).ground = cell.ground := by
  rw [depositFood]
  split <;> rfl

@[simp]
theorem ground_removeFood (cell : Cell) : cell.removeFood.ground = cell.ground := by
  rw [removeFood]
  split <;> rfl

@[simp]
theorem ground_setMarks (cell : Cell) (color : Color) (marks : UInt8) :
    (cell.setMarks color marks).ground = cell.ground := by
  cases color <;> rfl

@[simp]
theorem ground_addMarker (cell : Cell) (color : Color) (marker : Nat) :
    (cell.addMarker color marker).ground = cell.ground := by
  rw [addMarker]
  split
  · exact ground_setMarks ..
  · rfl

@[simp]
theorem ground_removeMarker (cell : Cell) (color : Color) (marker : Nat) :
    (cell.removeMarker color marker).ground = cell.ground := by
  rw [removeMarker]
  split
  · exact ground_setMarks ..
  · rfl

@[simp]
theorem ground_setAnt (cell : Cell) (id : Nat) : (cell.setAnt id).ground = cell.ground := by
  rw [setAnt]
  split <;> rfl

@[simp]
theorem ground_removeAnt (cell : Cell) : cell.removeAnt.ground = cell.ground := rfl

/-- Cells of one ground are made of the same. -/
theorem terrain_eq_of_ground (h : cell'.ground = cell.ground) : cell'.terrain = cell.terrain := by
  change cell'.ground.terrain = cell.ground.terrain
  rw [h]

/-- Cells of one ground are rock or not alike. -/
theorem isRock_eq_of_ground (h : cell'.ground = cell.ground) : cell'.isRock = cell.isRock := by
  change cell'.ground.isRock = cell.ground.isRock
  rw [h]

/-- Cells of one ground lie in the same row and column. -/
theorem place_eq_of_ground (h : cell'.ground = cell.ground) :
    cell'.row = cell.row ∧ cell'.col = cell.col := by
  change cell'.ground.row = cell.ground.row ∧ cell'.ground.col = cell.ground.col
  rw [h]
  exact ⟨rfl, rfl⟩

/-- Cells of one ground have the same links. -/
theorem link_eq_of_ground (h : cell'.ground = cell.ground) (d : Direction) :
    cell'.link d = cell.link d := by
  change cell'.ground.link d = cell.ground.link d
  rw [h]

/-! ### What food and markers leave alone -/

@[simp]
theorem ant_depositFood (cell : Cell) (amount : UInt32) :
    (cell.depositFood amount).ant = cell.ant := by
  rw [depositFood]
  split <;> rfl

@[simp]
theorem ant_removeFood (cell : Cell) : cell.removeFood.ant = cell.ant := by
  rw [removeFood]
  split <;> rfl

@[simp]
theorem ant_setMarks (cell : Cell) (color : Color) (marks : UInt8) :
    (cell.setMarks color marks).ant = cell.ant := by
  cases color <;> rfl

@[simp]
theorem ant_addMarker (cell : Cell) (color : Color) (marker : Nat) :
    (cell.addMarker color marker).ant = cell.ant := by
  rw [addMarker]
  split
  · exact ant_setMarks ..
  · rfl

@[simp]
theorem ant_removeMarker (cell : Cell) (color : Color) (marker : Nat) :
    (cell.removeMarker color marker).ant = cell.ant := by
  rw [removeMarker]
  split
  · exact ant_setMarks ..
  · rfl

@[simp]
theorem ant_removeAnt (cell : Cell) : cell.removeAnt.ant = none := rfl

/-- An ant can be put on everything but rock. -/
theorem ant_setAnt (hrock : cell.isRock = false) (id : Nat) :
    (cell.setAnt id).ant = some id := by
  simp [setAnt, hrock]

/-- A cell is available if it is no rock and nobody stands on it. -/
theorem isAvailable_eq_true_iff :
    cell.isAvailable = true ↔ cell.isRock = false ∧ cell.ant = none := by
  simp [isAvailable]

/-! ### Bare rock -/

/-- Nothing lies or stands on the cell. -/
def Bare (cell : Cell) : Prop := cell.ground = cell

theorem Bare.food_eq (h : cell.Bare) : cell.food = 0 := by
  rw [← h]
  rfl

theorem Bare.marks_eq (h : cell.Bare) (color : Color) : cell.marks color = 0 := by
  rw [← h]
  cases color <;> rfl

theorem Bare.ant_eq (h : cell.Bare) : cell.ant = none := by
  rw [← h]
  rfl

theorem depositFood_of_isRock (hrock : cell.isRock = true) (amount : UInt32) :
    cell.depositFood amount = cell := by
  rw [depositFood, if_pos hrock]

theorem addMarker_of_isRock (hrock : cell.isRock = true) (color : Color) (marker : Nat) :
    cell.addMarker color marker = cell := by
  simp [addMarker, hrock]

theorem setAnt_of_isRock (hrock : cell.isRock = true) (id : Nat) : cell.setAnt id = cell := by
  rw [setAnt, if_pos hrock]

theorem Bare.removeFood_eq (h : cell.Bare) : cell.removeFood = cell := by
  rw [removeFood, h.food_eq, if_neg (by decide)]

theorem Bare.removeMarker_eq (h : cell.Bare) (color : Color) (marker : Nat) :
    cell.removeMarker color marker = cell := by
  rw [removeMarker, h.marks_eq, UInt8.zero_and]
  split
  · -- There was nothing to clear.
    rw [← h]
    cases color <;> rfl
  · rfl

theorem Bare.removeAnt_eq (h : cell.Bare) : cell.removeAnt = cell := by
  rw [← h]
  rfl

end Cell

namespace Board

/-- Nothing lies or stands on rock. -/
def RockBare (board : Board) : Prop :=
  ∀ ⦃i : Nat⦄ ⦃cell : Cell⦄, board.cell? i = some cell → cell.isRock = true → cell.Bare

/-- The board without anything lying or standing on it. -/
def ground (board : Board) : Board := { board with cells := board.cells.map Cell.ground }

variable {board board' : Board}

/-- A cell of the ground is the ground of the cell. -/
theorem cell?_ground (board : Board) (i : Nat) :
    board.ground.cell? i = (board.cell? i).map Cell.ground :=
  Array.getElem?_map ..

/-- Changing what lies or stands on a cell does not change the ground. -/
theorem ground_modify (board : Board) (i : Nat) {f : Cell → Cell}
    (hf : ∀ cell, (f cell).ground = cell.ground) : (board.modify i f).ground = board.ground := by
  have hcells : (board.cells.modify i f).map Cell.ground = board.cells.map Cell.ground := by
    ext j hj hj'
    · simp
    · simp only [Array.getElem_map, Array.getElem_modify]
      split
      · exact hf _
      · rfl
  simp only [ground, modify, hcells]

/-- Rock stays bare if whatever is done leaves bare rock as it is. -/
theorem RockBare.modify (h : board.RockBare) (i : Nat) {f : Cell → Cell}
    (hground : ∀ cell, (f cell).ground = cell.ground)
    (hf : ∀ cell, cell.isRock = true → cell.Bare → f cell = cell) :
    (board.modify i f).RockBare := by
  intro j cell' hcell' hrock
  rw [cell?_modify] at hcell'
  split at hcell'
  · obtain ⟨cell, hcell, rfl⟩ := Option.map_eq_some_iff.1 hcell'
    rw [Cell.isRock_eq_of_ground (hground cell)] at hrock
    have hbare := h hcell hrock
    rwa [hf cell hrock hbare]
  · exact h hcell' hrock

/-- On one ground, the same cells exist and have the same ground. -/
theorem exists_cell?_of_ground (h : board'.ground = board.ground) {i : Nat} {cell : Cell}
    (hcell : board.cell? i = some cell) :
    ∃ cell', board'.cell? i = some cell' ∧ cell'.ground = cell.ground := by
  have hmap : (board'.cell? i).map Cell.ground = some cell.ground := by
    rw [← cell?_ground, h, cell?_ground, hcell, Option.map_some]
  exact Option.map_eq_some_iff.1 hmap

/-- On one ground, neighbours are the same. -/
theorem neighbor?_eq_of_ground (h : board'.ground = board.ground) (i : Nat) (d : Direction) :
    board'.neighbor? i d = board.neighbor? i d := by
  cases hcell : board.cell? i with
  | some cell =>
    obtain ⟨cell', hcell', hground⟩ := exists_cell?_of_ground h hcell
    simp only [neighbor?, hcell, hcell', Cell.link_eq_of_ground hground d]
  | none =>
    cases hcell' : board'.cell? i with
    | some cell' =>
      obtain ⟨cell, hsome, _⟩ := exists_cell?_of_ground h.symm hcell'
      simp [hcell] at hsome
    | none => simp only [neighbor?, hcell, hcell']

end Board

end Formicary
