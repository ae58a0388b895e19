import Formicary.Generator.Stamp
import Formicary.World.Contest

/-!
# Canvases

The surface on which a world is drawn. Rock is painted wet, so that one walk of the brush may
cross its own trail, and dries when the walk is over.
-/

namespace Formicary

/-- What is painted on a cell of a canvas. -/
inductive Paint where
  /-- A tile that is there to stay. -/
  | dry (tile : Tile)
  /-- Rock painted by the walk in progress. -/
  | wetRock
  deriving DecidableEq

namespace Paint

/-- Whether a stamp may be put down here: on clear ground or wet rock. -/
def isFree : Paint → Bool
  | dry tile => tile = .clear
  | wetRock => true

/-- Wet rock becomes rock. -/
def dried : Paint → Paint
  | dry tile => dry tile
  | wetRock => dry .rock

/-- The symbol in the drawing of a canvas. -/
def symbol : Paint → Char
  | dry tile => tile.symbol
  | wetRock => 't'

end Paint

/-- A rectangle of painted cells, given row by row. -/
structure Canvas extends Frame where
  /-- The paint on every cell, by the cell's number in the frame. -/
  cells : Array Paint

namespace Canvas

/-- A canvas of clear ground inside an edge of rock. -/
def walled (width height : Nat) : Canvas :=
  { width, height
    cells := Array.ofFn fun (i : Fin (height * width)) =>
      let row := i.val / width
      let col := i.val % width
      if row = 0 ∨ row = height - 1 ∨ col = 0 ∨ col = width - 1 then .dry .rock
      else .dry .clear }

/-- The paint in a row and column. Beyond the canvas there is rock. -/
def paintAt (canvas : Canvas) (row col : Nat) : Paint :=
  canvas.cells.getD (row * canvas.width + col) (.dry .rock)

/-- Whether a stamp lies inside the canvas when its corner is put on a cell. From an even row it
reaches one column further to the left, so it cannot be put on the first column there. -/
def hasRoom (canvas : Canvas) (stamp : Stamp) (corner : Hex) : Bool :=
  0 ≤ corner.row && 0 ≤ corner.col &&
    stamp.length ≤ canvas.height - corner.row && stamp.width ≤ canvas.width - corner.col &&
    (corner.row % 2 = 1 || corner.col ≠ 0)

/-- The row and column on which a place of a stamp lands. A stamp is drawn for odd rows, so from
an even row its odd lines move one column to the left. -/
def landing (corner : Hex) (r c : Nat) : Nat × Nat :=
  -- There they land on odd rows of the canvas, which sit half a cell further to the right.
  let shift := if r % 2 = 1 ∧ corner.row % 2 ≠ 1 then 1 else 0
  (corner.row.toNat + r, corner.col.toNat + c - shift)

/-- Whether every place of a stamp that matters lands on free ground. -/
def isFreeFor (canvas : Canvas) (stamp : Stamp) (corner : Hex) : Bool :=
  stamp.places.all fun (r, c, _) =>
    let (row, col) := landing corner r c
    (canvas.paintAt row col).isFree

/-- Paint one cell. -/
def paintCell (canvas : Canvas) (row col : Nat) (paint : Paint) : Canvas :=
  { canvas with cells := canvas.cells.setIfInBounds (row * canvas.width + col) paint }

/-- Paint the body of a stamp. -/
def paintBody (canvas : Canvas) (stamp : Stamp) (corner : Hex) (paint : Paint) : Canvas :=
  stamp.places.foldl
    (fun canvas (r, c, part) =>
      if part = .body then
        let (row, col) := landing corner r c
        canvas.paintCell row col paint
      else canvas)
    canvas

/-- Put a stamp down with its corner on a cell, unless it leaves the canvas or something is in its
way. -/
def superimpose (canvas : Canvas) (stamp : Stamp) (corner : Hex) (paint : Paint) :
    Option Canvas :=
  if canvas.hasRoom stamp corner && canvas.isFreeFor stamp corner then
    some (canvas.paintBody stamp corner paint)
  else none

/-- Let wet rock dry. -/
def dry (canvas : Canvas) : Canvas := { canvas with cells := canvas.cells.map Paint.dried }

/-- The drawing of one row: symbols with a space between them, indented on odd rows. -/
def rowLine (canvas : Canvas) (row : Nat) : List Char :=
  let symbols := (List.range canvas.width).flatMap fun col =>
    (if col = 0 then [] else [' ']) ++ [(canvas.paintAt row col).symbol]
  if row % 2 = 1 then ' ' :: symbols else symbols

/-- The world drawn on the canvas, as source. -/
def render (canvas : Canvas) : String :=
  String.ofList <|
    (toString canvas.width).toList ++ '\n' :: (toString canvas.height).toList ++ '\n' ::
      (List.range canvas.height).flatMap fun row => canvas.rowLine row ++ ['\n']

end Canvas

end Formicary
