import Formicary.Game.Event
import Formicary.Proofs.Board.Contents
import Formicary.Proofs.Board.Layout

/-!
# Boards retold by events

Somebody who hears nothing of a game but its events can keep a board of their own: the new amount
of food goes to the cell that the event names, and the bit of a marker is set or cleared there.
`Board.replay` is this board after an event. The ants are left out; `Board.deserted` is a board
with all of them taken off.

A change of a cell is followed exactly by the same change in its row and column
(`LaidOut.deserted_modify_eq_modifyAt`), since these name the number of the cell
(`LaidOut.index?_eq`).
-/

namespace Formicary

namespace Cell

/-- Replace the food. -/
def setFood (cell : Cell) (food : UInt32) : Cell := { cell with food }

/-- A cell is what lies there and who stands there. -/
theorem eq_of_removeAnt {cell cell' : Cell} (h : cell'.removeAnt = cell.removeAnt)
    (hant : cell'.ant = cell.ant) : cell' = cell := by
  obtain ⟨row, col, terrain, links, food, redMarks, blackMarks, ant⟩ := cell
  obtain ⟨row', col', terrain', links', food', redMarks', blackMarks', ant'⟩ := cell'
  simp_all [removeAnt]

/-! ### How changes look where the ants are left out -/

@[simp]
theorem removeAnt_removeAnt (cell : Cell) : cell.removeAnt.removeAnt = cell.removeAnt := rfl

@[simp]
theorem removeAnt_setAnt (cell : Cell) (id : Nat) :
    (cell.setAnt id).removeAnt = cell.removeAnt := by
  rw [setAnt]
  split <;> rfl

theorem removeAnt_setMarks (cell : Cell) (color : Color) (marks : UInt8) :
    (cell.setMarks color marks).removeAnt = cell.removeAnt.setMarks color marks := by
  cases color <;> rfl

theorem removeAnt_depositFood (cell : Cell) (amount : UInt32) :
    (cell.depositFood amount).removeAnt =
      cell.removeAnt.setFood (cell.depositFood amount).food := by
  rw [depositFood]
  split <;> rfl

theorem removeAnt_removeFood (cell : Cell) :
    cell.removeFood.removeAnt = cell.removeAnt.setFood cell.removeFood.food := by
  rw [removeFood]
  split <;> rfl

end Cell

namespace Board

/-- The board with all ants taken off. -/
def deserted (board : Board) : Board := { board with cells := board.cells.map Cell.removeAnt }

/-- Change the cell in a row and column. -/
def modifyAt (board : Board) (row col : Nat) (f : Cell → Cell) : Board :=
  match board.index? ⟨row, col⟩ with
  | some i => board.modify i f
  | none => board

/-- The board after an event, as far as the event tells. -/
def replay (board : Board) : Event → Board
  | .markerPlaced row col color marker => board.modifyAt row col fun cell =>
      cell.setMarks color (cell.marks color ||| Cell.markBit marker)
  | .markerRemoved row col color marker => board.modifyAt row col fun cell =>
      cell.setMarks color (cell.marks color &&& ~~~Cell.markBit marker)
  | .foodChanged row col food => board.modifyAt row col (·.setFood food)
  | .antKilled .. => board

/-- The board after a number of events, as far as the events tell. -/
def replayAll (board : Board) (events : List Event) : Board := events.foldl replay board

variable {board : Board} {world : WorldMap} {i : Nat} {cell : Cell}

theorem replayAll_append (board : Board) (events events' : List Event) :
    board.replayAll (events ++ events') = (board.replayAll events).replayAll events' :=
  List.foldl_append

/-- No event tells of another frame. -/
theorem toFrame_replayAll (board : Board) (events : List Event) :
    (board.replayAll events).toFrame = board.toFrame := by
  have hmodify (board : Board) (row col : Nat) (f : Cell → Cell) :
      (board.modifyAt row col f).toFrame = board.toFrame := by
    rw [modifyAt]
    split <;> rfl
  have hreplay (board : Board) (event : Event) : (board.replay event).toFrame = board.toFrame := by
    cases event with
    | markerPlaced | markerRemoved | foodChanged => exact hmodify ..
    | antKilled => rfl
  induction events generalizing board with
  | nil => rfl
  | cons event events ih => exact (ih _).trans (hreplay board event)

theorem cell?_deserted (board : Board) (i : Nat) :
    board.deserted.cell? i = (board.cell? i).map Cell.removeAnt :=
  Array.getElem?_map ..

/-- A change of a cell seems, on the deserted board, to be the change that it seems to be on the
deserted cell. -/
theorem deserted_modify {f g : Cell → Cell}
    (h : ∀ cell, board.cell? i = some cell → (f cell).removeAnt = g cell.removeAnt) :
    (board.modify i f).deserted = board.deserted.modify i g := by
  have hcells : (board.modify i f).deserted.cells = (board.deserted.modify i g).cells := by
    refine Array.ext_getElem? fun j => ?_
    change (board.modify i f).deserted.cell? j = (board.deserted.modify i g).cell? j
    rw [cell?_deserted, cell?_modify, cell?_modify, cell?_deserted]
    split
    next hij =>
      subst hij
      cases hcell : board.cell? i with
      | none => rfl
      | some cell => simp only [Option.map_some, h cell hcell]
    next => rfl
  exact Board.mk.injEq .. ▸ ⟨rfl, hcells⟩

/-- Whatever ants do on a cell without touching what lies there leaves the deserted board as it
is. -/
theorem deserted_modify_eq_self (board : Board) (i : Nat) {f : Cell → Cell}
    (h : ∀ cell, (f cell).removeAnt = cell.removeAnt) :
    (board.modify i f).deserted = board.deserted := by
  have hcells : (board.deserted.modify i id).cells = board.deserted.cells := by
    refine Array.ext_getElem? fun j => ?_
    rw [modify, Array.getElem?_modify]
    split
    · rw [Option.map_id, id]
    · rfl
  rw [deserted_modify (g := id) fun cell _ => h cell]
  exact Board.mk.injEq .. ▸ ⟨rfl, hcells⟩

/-- On a board made from a world the row and column of a cell name its number. -/
theorem LaidOut.index?_eq (hlaid : board.LaidOut world) (hcell : board.cell? i = some cell) :
    board.index? ⟨cell.row, cell.col⟩ = some i := by
  -- The cell has the place of the cell that was made for its number, whatever lies on it now.
  obtain ⟨laid, hlaidCell, hground⟩ := exists_cell?_of_ground hlaid.symm hcell
  obtain ⟨hrow, hcol⟩ := Cell.place_eq_of_ground hground
  rw [cell?_ofMap] at hlaidCell
  split at hlaidCell
  next hi =>
    obtain rfl := Option.some.inj hlaidCell
    rw [← hrow, ← hcol, hlaid.toFrame_eq]
    exact Frame.index?_hex hi
  next => simp at hlaidCell

/-- The cell in the row and column of a cell. -/
theorem LaidOut.cellAt?_deserted (hlaid : board.LaidOut world)
    (hcell : board.cell? i = some cell) :
    board.deserted.cellAt? cell.row cell.col = some cell.removeAnt := by
  have hindex : board.deserted.index? ⟨cell.row, cell.col⟩ = some i := hlaid.index?_eq hcell
  rw [cellAt?, hindex]
  change board.deserted.cell? i = some cell.removeAnt
  rw [cell?_deserted, hcell, Option.map_some]

/-- A change of a cell that looks on the deserted cell like another one is that other one, made by
row and column. -/
theorem LaidOut.deserted_modify_eq_modifyAt (hlaid : board.LaidOut world)
    (hcell : board.cell? i = some cell) {f g : Cell → Cell}
    (h : (f cell).removeAnt = g cell.removeAnt) :
    (board.modify i f).deserted = board.deserted.modifyAt cell.row cell.col g := by
  have hindex : board.deserted.index? ⟨cell.row, cell.col⟩ = some i := hlaid.index?_eq hcell
  rw [modifyAt, hindex]
  refine deserted_modify fun cell' hcell' => ?_
  obtain rfl := Option.some.inj (hcell.symm.trans hcell')
  exact h

end Board

end Formicary
