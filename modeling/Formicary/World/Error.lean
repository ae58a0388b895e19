import Formicary.Color

/-!
# Faults in a world

The faults of a world's source and the breaches of the contest rules. Rows are counted from zero
and do not include the two lines of dimensions.
-/

namespace Formicary

/-- Why a world is refused. -/
inductive WorldError where
  /-- The source is too short to hold any world. -/
  | tooFewLines
  /-- The width or the height is no positive number. -/
  | invalidDimensions
  /-- The world does not have the size that the contest rules ask for. -/
  | contestDimensions (width height : Nat)
  /-- There are more or fewer rows than the height says. -/
  | heightMismatch (expected found : Nat)
  /-- An odd row is not indented. -/
  | missingOddRowSpace (row : Nat)
  /-- An odd row is indented by more than one space. -/
  | extraOddRowSpace (row : Nat)
  /-- An even row is indented. -/
  | unexpectedEvenRowSpace (row : Nat)
  /-- A row has more or fewer symbols than the width says. -/
  | widthMismatch (row expected found : Nat)
  /-- A row holds something that is no symbol for a tile. -/
  | unrecognizedCell (row : Nat) (token : String)
  /-- Some cell at the edge is not rock. -/
  | notEnclosedByRock
  /-- A colony has no hill. -/
  | missingHill (color : Color)
  /-- There is no food. -/
  | missingFood
  /-- This cell, rock or hill, touches a hill of another colour. -/
  | hillAdjacency (row col : Nat)
  /-- A colony has more or fewer than one hill. -/
  | hillCount (color : Color) (found : Nat)
  /-- A hill is not a full hexagon. -/
  | hillShape (color : Color)
  /-- There are more or fewer rocks than the contest rules ask for. -/
  | rockRegionCount (found : Nat)
  /-- A cell holds another amount of food than the contest rules ask for. -/
  | foodQuantity (row col found : Nat)
  /-- There are more or fewer cells with food than the contest rules ask for. -/
  | foodCount (found : Nat)
  /-- Some food cannot be divided into legal blobs. -/
  | foodShape
  deriving DecidableEq

/-- The fault in words. -/
def WorldError.message : WorldError → String
  | tooFewLines => "too few lines"
  | invalidDimensions => "could not parse world dimensions"
  | contestDimensions width height => s!"contest grids must be 150x150, got {width}x{height}"
  | heightMismatch expected found =>
    s!"grid height does not match specified value: expected {expected}, found {found}"
  | missingOddRowSpace row => s!"no space at start of odd row {row}"
  | extraOddRowSpace row => s!"too much space at start of odd row {row}"
  | unexpectedEvenRowSpace row => s!"unexpected space at start of even row {row}"
  | widthMismatch row expected found =>
    s!"grid width mismatch at row {row}: expected {expected}, found {found}"
  | unrecognizedCell row token => s!"unrecognised cell identifier '{token}' at row {row}"
  | notEnclosedByRock => "the ant world must be enclosed by rock"
  | missingHill color => s!"the ant world must contain at least one {color.name} hill"
  | missingFood => "the ant world must contain at least one source of food"
  | hillAdjacency row col =>
    "an ant hill cannot be immediately adjacent to a rock or to the other ant hill " ++
      s!"(cell ({row}, {col}))"
  | hillCount color found => s!"incorrect number of {color.name} hills detected: {found}"
  | hillShape color => s!"{color.name} hill is of illegal size and shape"
  | rockRegionCount found =>
    s!"there must be 14 rocky areas unattached to the edge (found {found} rock regions)"
  | foodQuantity row col found =>
    s!"the cell at ({row}, {col}) has an incorrect amount of food: {found}"
  | foodCount found => s!"expected 275 food cells, found {found}"
  | foodShape => "misshapen food blobs discovered"

end Formicary
