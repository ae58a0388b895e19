import Formicary.Frame
import Formicary.World.Tile

/-!
# World maps

A world map is a rectangle of tiles. Its printed form begins with the width and the height and
draws one row a line; odd rows are indented by one space, as they sit half a cell to the right.
-/

namespace Formicary

/-- A rectangular world, its tiles given row by row. -/
structure WorldMap extends Frame where
  /-- The tile of every cell, by the cell's number in the frame. -/
  tiles : Array Tile
  deriving DecidableEq

namespace WorldMap

/-- Whether there is exactly one tile for every cell of the frame. -/
def WellFormed (world : WorldMap) : Prop := world.tiles.size = world.width * world.height

/-- The tile of a cell, or nothing outside the world. -/
def tile? (world : WorldMap) (h : Hex) : Option Tile :=
  match world.index? h with
  | some i => world.tiles[i]?
  | none => none

/-- The tile in a row and column of the world. Beyond its tiles there is rock. -/
def tileAt (world : WorldMap) (row col : Nat) : Tile :=
  world.tiles.getD (row * world.width + col) .rock

/-- Whether some tile satisfies a test. -/
def containsTile (world : WorldMap) (p : Tile → Bool) : Bool := world.tiles.any p

/-- Whether the first and last row and the first and last column are all rock. -/
def enclosed (world : WorldMap) : Bool :=
  ((List.range world.width).all fun col =>
    world.tileAt 0 col = .rock && world.tileAt (world.height - 1) col = .rock) &&
  ((List.range world.height).all fun row =>
    world.tileAt row 0 = .rock && world.tileAt row (world.width - 1) = .rock)

/-- The tiles of one row, from left to right. -/
def rowTiles (world : WorldMap) (row : Nat) : List Tile :=
  (List.range world.width).map (world.tileAt row)

/-- The drawing of one row. -/
def rowLine (world : WorldMap) (row : Nat) : List Char :=
  (if row % 2 = 1 then [' '] else []) ++
    [' '].intercalate ((world.rowTiles row).map fun tile => [tile.symbol])

/-- The lines of the printed world: width, height, and the rows. -/
def textLines (world : WorldMap) : List (List Char) :=
  (toString world.width).toList :: (toString world.height).toList ::
    (List.range world.height).map world.rowLine

/-- The printed world; every line is ended by a line feed. -/
def text (world : WorldMap) : String :=
  String.ofList (world.textLines.flatMap (· ++ ['\n']))

end WorldMap

end Formicary
