import Formicary.Brain.Instruction
import Formicary.World.Tile

/-!
# Cells of the board

A cell has fixed terrain and fixed links to its neighbours; food, markers and an ant come and go.
The markers of each colony are kept as the low bits of one byte, one bit for each marker. Rock
takes on nothing.
-/

namespace Formicary

/-- What a cell is made of. -/
inductive Terrain where
  /-- Rock, which nothing can enter. -/
  | rock
  /-- Open ground. -/
  | clear
  /-- A colony's hill. -/
  | hill (color : Color)
  deriving DecidableEq

namespace Terrain

/-- The terrain under a tile. -/
def ofTile : Tile → Terrain
  | .rock => rock
  | .clear => clear
  | .hill color => hill color
  | .food _ => clear

/-- The colony that a hill belongs to. -/
def hillColor? : Terrain → Option Color
  | hill color => some color
  | _ => none

end Terrain

/-- The numbers of a cell's neighbours. At the end of the board a neighbour is missing. -/
structure Links where
  /-- The neighbour to the east. -/
  east : Option Nat
  /-- The neighbour to the south-east. -/
  southEast : Option Nat
  /-- The neighbour to the south-west. -/
  southWest : Option Nat
  /-- The neighbour to the west. -/
  west : Option Nat
  /-- The neighbour to the north-west. -/
  northWest : Option Nat
  /-- The neighbour to the north-east. -/
  northEast : Option Nat
  deriving DecidableEq

namespace Links

/-- The links given by a function of the direction. -/
def ofFn (f : Direction → Option Nat) : Links :=
  ⟨f .east, f .southEast, f .southWest, f .west, f .northWest, f .northEast⟩

/-- The neighbour in a direction. -/
def get (links : Links) : Direction → Option Nat
  | .east => links.east
  | .southEast => links.southEast
  | .southWest => links.southWest
  | .west => links.west
  | .northWest => links.northWest
  | .northEast => links.northEast

/-- Links made from a function are what the function says. -/
@[simp]
theorem get_ofFn (f : Direction → Option Nat) (d : Direction) : (ofFn f).get d = f d := by
  cases d <;> rfl

end Links

/-- One cell of the board. -/
structure Cell where
  /-- The row of the cell. -/
  row : Nat
  /-- The column of the cell. -/
  col : Nat
  /-- What the cell is made of. -/
  terrain : Terrain
  /-- The neighbours of the cell. -/
  links : Links
  /-- The food lying on the cell. -/
  food : UInt32 := 0
  /-- The markers of the red colony, one bit for each. -/
  redMarks : UInt8 := 0
  /-- The markers of the black colony, one bit for each. -/
  blackMarks : UInt8 := 0
  /-- The ant standing on the cell. -/
  ant : Option Nat := none
  deriving DecidableEq

namespace Cell

/-- A new cell without markers and ants. Food is not laid on rock. -/
def new (terrain : Terrain) (food : UInt32) (row col : Nat) (links : Links) : Cell :=
  { row, col, terrain, links, food := if terrain = .rock then 0 else food }

/-- Whether the cell is rock. -/
def isRock (cell : Cell) : Bool := cell.terrain = .rock

/-- The neighbour in a direction. -/
def link (cell : Cell) (d : Direction) : Option Nat := cell.links.get d

/-! ### Food -/

/-- Whether any food lies on the cell. -/
def hasFood (cell : Cell) : Bool := 0 < cell.food

/-- Lay down food. -/
def depositFood (cell : Cell) (amount : UInt32) : Cell :=
  if cell.isRock then cell else { cell with food := cell.food + amount }

/-- Take away one unit of food, if there is any. -/
def removeFood (cell : Cell) : Cell :=
  if 0 < cell.food then { cell with food := cell.food - 1 } else cell

/-! ### Markers -/

/-- The markers of a colony, one bit for each. -/
def marks (cell : Cell) : Color → UInt8
  | .red => cell.redMarks
  | .black => cell.blackMarks

/-- Replace the markers of a colony. -/
def setMarks (cell : Cell) (color : Color) (marks : UInt8) : Cell :=
  match color with
  | .red => { cell with redMarks := marks }
  | .black => { cell with blackMarks := marks }

/-- The bit of a marker. -/
def markBit (marker : Nat) : UInt8 := 1 <<< UInt8.ofNat marker

/-- Set a marker of a colony; one that does not exist is ignored. -/
def addMarker (cell : Cell) (color : Color) (marker : Nat) : Cell :=
  if !cell.isRock && marker < markerCount then
    cell.setMarks color (cell.marks color ||| markBit marker)
  else cell

/-- Clear a marker of a colony; one that does not exist is ignored. -/
def removeMarker (cell : Cell) (color : Color) (marker : Nat) : Cell :=
  if marker < markerCount then cell.setMarks color (cell.marks color &&& ~~~markBit marker)
  else cell

/-- Whether a marker of a colony is set. -/
def hasMarker (cell : Cell) (color : Color) (marker : Nat) : Bool :=
  marker < markerCount && cell.marks color &&& markBit marker ≠ 0

/-- Whether any marker of a colony is set. -/
def hasAnyMarker (cell : Cell) (color : Color) : Bool := cell.marks color ≠ 0

/-- The markers of a colony that are set, in ascending order. -/
def markers (cell : Cell) (color : Color) : List Nat :=
  (List.range markerCount).filter (cell.hasMarker color)

/-! ### Ants -/

/-- Whether an ant could step onto the cell. -/
def isAvailable (cell : Cell) : Bool := !cell.isRock && cell.ant.isNone

/-- Put an ant on the cell. -/
def setAnt (cell : Cell) (id : Nat) : Cell :=
  if cell.isRock then cell else { cell with ant := some id }

/-- Take the ant off the cell. -/
def removeAnt (cell : Cell) : Cell := { cell with ant := none }

/-! ### Text -/

/-- What the text of a cell says about a colony's markers. -/
def markText (cell : Cell) (color : Color) : List String :=
  if cell.hasAnyMarker color then
    [color.name ++ " marks: " ++ String.join ((cell.markers color).map toString)]
  else []

/-- The cell in one line of text: food, hill, markers and ant, as far as there are any. -/
def text (cell : Cell) : String :=
  if cell.isRock then "rock"
  else
    let food := if cell.hasFood then [toString cell.food.toNat ++ " food"] else []
    let hill := match cell.terrain.hillColor? with
      | some color => [color.name ++ " hill"]
      | none => []
    let ant := match cell.ant with
      | some id => ["ant " ++ toString id]
      | none => []
    "; ".intercalate (food ++ hill ++ Color.all.flatMap cell.markText ++ ant)

end Cell

end Formicary
