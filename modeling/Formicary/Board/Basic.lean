import Formicary.Board.Cell
import Formicary.World.Map

/-!
# Boards

A board is a rectangle of cells whose links to their neighbours are worked out once, when the
board is laid out from a world map.
-/

namespace Formicary

/-- A rectangular board, its cells given row by row. -/
structure Board extends Frame where
  /-- The cells, by their number in the frame. -/
  cells : Array Cell
  deriving DecidableEq

namespace Board

/-- The food that a tile puts on its cell. -/
def tileFood : Tile → UInt32
  | .food amount => UInt32.ofNat amount
  | _ => 0

/-- Lay out cell number `i` of a world. -/
def layCell (world : WorldMap) (i : Nat) : Cell :=
  let h := world.hex i
  let tile := world.tileAt h.row.toNat h.col.toNat
  .new (.ofTile tile) (tileFood tile) h.row.toNat h.col.toNat
    (.ofFn fun d => world.index? (d.step h))

/-- The board of a world, with nothing on it but the world's food. -/
def ofMap (world : WorldMap) : Board :=
  { world.toFrame with
    cells := (Array.range (world.height * world.width)).map (layCell world) }

/-- The cell with a given number. -/
def cell? (board : Board) (i : Nat) : Option Cell := board.cells[i]?

/-- The cell in a row and column. -/
def cellAt? (board : Board) (row col : Nat) : Option Cell :=
  match board.index? ⟨row, col⟩ with
  | some i => board.cell? i
  | none => none

/-- Change the cell with a given number. -/
def modify (board : Board) (i : Nat) (f : Cell → Cell) : Board :=
  { board with cells := board.cells.modify i f }

/-- The number of the neighbour of a cell in a direction. -/
def neighbor? (board : Board) (i : Nat) (d : Direction) : Option Nat :=
  match board.cell? i with
  | some cell => cell.link d
  | none => none

/-- The numbers of the cells of a colony's hill, in ascending order. -/
def hillCells (board : Board) (color : Color) : List Nat :=
  (List.range board.cells.size).filter fun i =>
    match board.cell? i with
    | some cell => cell.terrain = .hill color
    | none => false

/-- Only the cell that is changed differs afterwards. -/
theorem cell?_modify (board : Board) (i j : Nat) (f : Cell → Cell) :
    (board.modify i f).cell? j = if i = j then (board.cell? j).map f else board.cell? j := by
  simp only [modify, cell?, Array.getElem?_modify]

end Board

end Formicary
