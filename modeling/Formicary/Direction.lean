/-!
# Directions on the hexagonal lattice

Cells of the lattice are named by offset coordinates: rows grow downwards, and every odd row
sits half a cell to the right of the even rows. Each cell has six neighbours, one in each
`Direction`; `Direction.step` gives the neighbour's coordinates. The row and column of a
diagonal neighbour depend on the parity of the row that the step starts from.
-/

namespace Formicary

/-- A cell of the unbounded hexagonal lattice, in offset coordinates. -/
structure Hex where
  /-- The row, growing downwards. -/
  row : Int
  /-- The column, growing to the right. -/
  col : Int
  deriving DecidableEq

/-- The six directions in which a cell has a neighbour, clockwise from east. -/
inductive Direction where
  /-- To the right on the same row. -/
  | east
  /-- To the right on the row below. -/
  | southEast
  /-- To the left on the row below. -/
  | southWest
  /-- To the left on the same row. -/
  | west
  /-- To the left on the row above. -/
  | northWest
  /-- To the right on the row above. -/
  | northEast
  deriving DecidableEq

namespace Direction

/-- All six directions, clockwise from east. -/
def all : List Direction := [east, southEast, southWest, west, northWest, northEast]

/-- The place of a direction in clockwise order, east being `0`. -/
def index : Direction → Nat
  | east => 0
  | southEast => 1
  | southWest => 2
  | west => 3
  | northWest => 4
  | northEast => 5

/-- The direction reached from east by `n` clockwise turns. -/
def ofIndex (n : Nat) : Direction :=
  match n % 6 with
  | 0 => east
  | 1 => southEast
  | 2 => southWest
  | 3 => west
  | 4 => northWest
  | _ => northEast

/-- One turn anticlockwise. -/
def left (d : Direction) : Direction := ofIndex (d.index + 5)

/-- One turn clockwise. -/
def right (d : Direction) : Direction := ofIndex (d.index + 1)

/-- The direction that leads back. -/
def opposite (d : Direction) : Direction := ofIndex (d.index + 3)

/-- The change of row and column made by one step from a cell in row `row`. -/
def offset (d : Direction) (row : Int) : Int × Int :=
  let odd := row % 2
  match d with
  | east => (0, 1)
  | southEast => (1, odd)
  | southWest => (1, odd - 1)
  | west => (0, -1)
  | northWest => (-1, odd - 1)
  | northEast => (-1, odd)

/-- The neighbour of a cell in a direction. -/
def step (d : Direction) (h : Hex) : Hex :=
  let (rows, cols) := d.offset h.row
  ⟨h.row + rows, h.col + cols⟩

/-- The direction as a word. -/
def name : Direction → String
  | east => "east"
  | southEast => "southeast"
  | southWest => "southwest"
  | west => "west"
  | northWest => "northwest"
  | northEast => "northeast"

/-- Every direction is at its own index. -/
@[simp]
theorem ofIndex_index (d : Direction) : ofIndex d.index = d := by
  cases d <;> rfl

/-- A turn clockwise undoes a turn anticlockwise. -/
@[simp]
theorem right_left (d : Direction) : d.left.right = d := by
  cases d <;> rfl

/-- A turn anticlockwise undoes a turn clockwise. -/
@[simp]
theorem left_right (d : Direction) : d.right.left = d := by
  cases d <;> rfl

/-- Turning back twice faces the first direction again. -/
@[simp]
theorem opposite_opposite (d : Direction) : d.opposite.opposite = d := by
  cases d <;> rfl

/-- Every direction is listed. -/
theorem mem_all (d : Direction) : d ∈ all := by
  cases d <;> decide

end Direction

end Formicary
