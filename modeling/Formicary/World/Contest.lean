import Formicary.Region.Fill
import Formicary.Region.Silhouette

/-!
# Contest rules

A contest world is as wide as it is high. Each colony has one hill, a full hexagon that touches
neither rock nor the other hill; there are fourteen rocks besides the edge; and there are eleven
blobs of food, each of 25 cells in one of three shapes, with the same amount on every cell. The
rules are checked in a fixed order and the first breach is reported.
-/

namespace Formicary

/-- The width and the height of a contest world. -/
def contestSize : Nat := 150

/-- The number of rocks in a contest world, the edge included. -/
def contestRocks : Nat := 15

/-- The number of food blobs in a contest world. -/
def contestBlobs : Nat := 11

/-- The amount of food on every food cell of a contest world. -/
def contestFood : Nat := 5

namespace WorldMap

/-- The silhouettes of the connected components of a kind, ordered by their first cells. -/
def regions (world : WorldMap) (target : Tile) : Except WorldError (List Silhouette) := do
  let components ← world.components target
  return components.map fun cells =>
    Silhouette.ofCells (cells.map fun h => (h.row.toNat, h.col.toNat))

/-- The silhouette of a colony's hill, of which there must be exactly one. -/
def soleHill (world : WorldMap) (color : Color) : Except WorldError Silhouette := do
  let hills ← world.regions (.hill color)
  match hills with
  | [hill] => return hill
  | _ => throw (.hillCount color hills.length)

/-- Count the food cells among the given cells; each must hold the contest's amount. -/
def countFood (world : WorldMap) (count : Nat) : List Nat → Except WorldError Nat
  | [] => .ok count
  | i :: rest =>
    match world.tiles.getD i .rock with
    | .food amount =>
      if amount = contestFood then countFood world (count + 1) rest
      else .error (.foodQuantity (i / world.width) (i % world.width) amount)
    | _ => countFood world count rest

/-- Check the contest rules, other than the size of the world. -/
def checkContest (world : WorldMap) : Except WorldError Unit := do
  -- Both hills must be there before the shape of either matters.
  let red ← world.soleHill .red
  let black ← world.soleHill .black
  if !red.isLegalHill then throw (.hillShape .red)
  if !black.isLegalHill then throw (.hillShape .black)
  -- The edge and whatever touches it count as one rock.
  let rocks ← world.components .rock
  if rocks.length ≠ contestRocks then throw (.rockRegionCount rocks.length)
  let food ← world.countFood 0 (List.range (world.height * world.width))
  if food ≠ contestBlobs * Silhouette.blobCells then throw (.foodCount food)
  let blobs ← world.regions (.food contestFood)
  if !blobs.all Silhouette.hasLegalFood then throw .foodShape

end WorldMap

end Formicary
