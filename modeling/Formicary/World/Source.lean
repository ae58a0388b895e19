import Formicary.Text.Blank
import Formicary.Text.Lines
import Formicary.Text.Numeral
import Formicary.World.Contest

/-!
# Reading world maps

A world's source has the width and the height on its first two lines and one row on each line
after them. The symbols of a row have a single space between them, and odd rows are indented by
one space. Every world is walled in by rock and has a hill of each colour and some food; in a
contest the contest rules apply too. The first fault found is the one reported.
-/

namespace Formicary

open Text

namespace WorldMap

/-- The lines of a source without the blank lines at its end. -/
def sourceLines (source : String) : List (List Char) :=
  ((lines source.toList).reverse.dropWhile (·.all isBlank)).reverse

/-- Read a width or height. -/
def readDimension (line : List Char) : Except WorldError Nat :=
  match count? (trim line) with
  | some n => if 0 < n then .ok n else .error .invalidDimensions
  | none => .error .invalidDimensions

/-- Take the indentation off a row: one space on odd rows, none on even rows. -/
def unindent (row : Nat) (line : List Char) : Except WorldError (List Char) :=
  if row % 2 = 1 then
    match line with
    | ' ' :: ' ' :: _ => .error (.extraOddRowSpace row)
    | ' ' :: body => .ok body
    | _ => .error (.missingOddRowSpace row)
  else
    match line with
    | ' ' :: _ => .error (.unexpectedEvenRowSpace row)
    | _ => .ok line

/-- Read the symbols of a row after the tiles read so far. -/
def readTiles (row : Nat) (tiles : Array Tile) :
    List (List Char) → Except WorldError (Array Tile)
  | [] => .ok tiles
  | token :: rest =>
    match token with
    | [c] =>
      match Tile.ofSymbol? c with
      | some tile => readTiles row (tiles.push tile) rest
      | none => .error (.unrecognizedCell row (String.ofList token))
    | _ => .error (.unrecognizedCell row (String.ofList token))

/-- Read a row after the tiles read so far. -/
def readRow (width row : Nat) (tiles : Array Tile) (line : List Char) :
    Except WorldError (Array Tile) := do
  let body ← unindent row line
  let tokens := (trim body).splitOn ' '
  if tokens.length ≠ width then throw (.widthMismatch row width tokens.length)
  readTiles row tiles tokens

/-- Read the given lines as rows, the first of which has number `row`, after the tiles read so
far. -/
def readRows (width row : Nat) (tiles : Array Tile) :
    List (List Char) → Except WorldError (Array Tile)
  | [] => .ok tiles
  | line :: rest =>
    match readRow width row tiles line with
    | .ok tiles => readRows width (row + 1) tiles rest
    | .error e => .error e

/-- Check what every world must have: an edge of rock, a hill of each colour, and food. -/
def checkBasics (world : WorldMap) : Except WorldError Unit := do
  if !world.enclosed then throw .notEnclosedByRock
  if !world.containsTile (· = .hill .red) then throw (.missingHill .red)
  if !world.containsTile (· = .hill .black) then throw (.missingHill .black)
  if !world.containsTile Tile.isFood then throw .missingFood

/-- The least number of lines that a source must have. -/
def minLines (contest : Bool) : Nat := if contest then 2 + contestSize else 2 + 3

/-- Read a world from the lines of its source. -/
def ofLines (contest : Bool) (source : List (List Char)) : Except WorldError WorldMap := do
  if source.length < minLines contest then throw .tooFewLines
  match source with
  | widthLine :: heightLine :: rows =>
    let width ← readDimension widthLine
    let height ← readDimension heightLine
    if contest ∧ (width ≠ contestSize ∨ height ≠ contestSize) then
      throw (.contestDimensions width height)
    if rows.length ≠ height then throw (.heightMismatch height rows.length)
    -- From here on the drawing is read row by row, and a fault is a fault of one row.
    let tiles ← readRows width 0 #[] rows
    let world : WorldMap := { width, height, tiles }
    world.checkBasics
    if contest then world.checkContest
    return world
  | _ => throw .tooFewLines

/-- Read a world from its source, by the contest rules if `contest` is set. -/
def parse (source : String) (contest : Bool) : Except WorldError WorldMap :=
  ofLines contest (sourceLines source)

end WorldMap

end Formicary
