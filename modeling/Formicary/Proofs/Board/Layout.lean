import Formicary.Proofs.Board.Ground
import Mathlib.Data.List.Basic
import Mathlib.Data.Set.Basic

/-!
# How boards are laid out

A board made from a world has a cell for every tile (`cell?_ofMap`). It is vacant, its hills are
those of the world (`hills_ofMap`), and every cell is linked to the cells around it
(`wired_ofMap`). A board stays `Wired` when things are put on it before a game begins, so results
on wired and vacant boards cover boards that were prepared with food and markers. Where more of the
world matters than the links, `LaidOut` says which world it was.
-/

namespace Formicary

namespace WorldMap

/-- The hill cells of a world in the order of their numbers, each with the colony of the hill. -/
def hills (world : WorldMap) : List (Nat × Color) :=
  (List.range (world.height * world.width)).filterMap fun i =>
    match world.tiles.getD i .rock with
    | .hill color => some (i, color)
    | _ => none

/-- The tile in the row and column of a cell number is the tile with that number. -/
theorem tileAt_hex (world : WorldMap) (i : Nat) :
    world.tileAt (world.hex i).row.toNat (world.hex i).col.toNat = world.tiles.getD i .rock := by
  simp only [tileAt, Frame.hex, Int.toNat_natCast]
  rw [Nat.mul_comm, Nat.div_add_mod]

/-- The tile of a cell of the world is the tile with its number. -/
theorem tile?_hex {world : WorldMap} {i : Nat} (hi : i < world.height * world.width) :
    world.tile? (world.hex i) = world.tiles[i]? := by
  rw [tile?, Frame.index?_hex hi]

/-- The cells of a world that are no rock. -/
def openCells (world : WorldMap) : Set Hex :=
  {h | ∃ tile, world.tile? h = some tile ∧ tile ≠ .rock}

end WorldMap

namespace Board

/-- Nobody stands on the board. -/
def Vacant (board : Board) : Prop :=
  ∀ ⦃i : Nat⦄ ⦃cell : Cell⦄, board.cell? i = some cell → cell.ant = none

/-- There is a cell for every place of the frame, linked to the cells around it. -/
structure Wired (board : Board) : Prop where
  /-- There are as many cells as the frame has places. -/
  size_eq : board.cells.size = board.height * board.width
  /-- Every link leads to the neighbour in that direction, if it lies in the frame. -/
  link_eq : ∀ {i : Nat} {cell : Cell}, board.cell? i = some cell →
    ∀ d, cell.link d = board.index? (d.step (board.hex i))

/-- The colony whose hill a cell is part of. -/
def hillColor? (board : Board) (i : Nat) : Option Color :=
  (board.cell? i).bind (·.terrain.hillColor?)

/-- Those of the given cells that are part of a hill, each with the colony of the hill. -/
def hillsAmong (board : Board) (cells : List Nat) : List (Nat × Color) :=
  cells.filterMap fun i => (board.hillColor? i).map (i, ·)

/-- The hill cells of a board in the order of their numbers, each with the colony of the hill. -/
def hills (board : Board) : List (Nat × Color) := board.hillsAmong (List.range board.cells.size)

variable {board board' : Board} {world : WorldMap} {i : Nat}

/-- The hill cells are those of some colony's hill. -/
theorem mem_hills_iff {color : Color} :
    (i, color) ∈ board.hills ↔ board.hillColor? i = some color := by
  rw [hills, hillsAmong, List.mem_filterMap]
  constructor
  · rintro ⟨j, -, hj⟩
    obtain ⟨color', hcolor, hsame⟩ := Option.map_eq_some_iff.1 hj
    obtain ⟨rfl, rfl⟩ := Prod.mk.inj hsame
    exact hcolor
  · intro hcolor
    obtain ⟨cell, hcell, -⟩ := Option.bind_eq_some_iff.1 hcolor
    have hlt : i < board.cells.size := (Array.getElem?_eq_some_iff.1 hcell).1
    exact ⟨i, List.mem_range.2 hlt, by rw [hcolor, Option.map_some]⟩

/-- The hill cells come in the order of their numbers. -/
theorem pairwise_hills (board : Board) : board.hills.Pairwise (·.1 < ·.1) := by
  refine List.pairwise_filterMap.2 (List.pairwise_lt_range.imp fun {i j} hij => ?_)
  rintro hill hhill hill' hhill'
  obtain ⟨color, -, rfl⟩ := Option.map_eq_some_iff.1 hhill
  obtain ⟨color', -, rfl⟩ := Option.map_eq_some_iff.1 hhill'
  exact hij

/-- The cells of one hill are the hill cells of its colour. -/
theorem hillCells_eq (board : Board) (color : Color) :
    board.hillCells color = (board.hills.filter (·.2 = color)).map Prod.fst := by
  rw [hillCells, hills]
  induction List.range board.cells.size with
  | nil => rfl
  | cons i cells ih =>
    rw [hillsAmong, List.filterMap_cons, List.filter_cons, ih, hillsAmong, hillColor?]
    cases board.cell? i with
    | none => rfl
    | some cell =>
      cases hterrain : cell.terrain with
      | rock | clear => simp [hterrain, Terrain.hillColor?]
      | hill other =>
        by_cases hcolor : other = color <;> simp [hterrain, Terrain.hillColor?, hcolor]

theorem mem_hillCells_iff {color : Color} :
    i ∈ board.hillCells color ↔ board.hillColor? i = some color := by
  rw [hillCells_eq, ← mem_hills_iff, List.mem_map]
  simp only [List.mem_filter, decide_eq_true_eq]
  constructor
  · rintro ⟨⟨j, other⟩, ⟨hmem, rfl⟩, rfl⟩
    exact hmem
  · intro hmem
    exact ⟨(i, color), ⟨hmem, rfl⟩, rfl⟩

/-- On one ground, the hills are the same. -/
theorem hillColor?_eq_of_ground (h : board'.ground = board.ground) :
    board'.hillColor? = board.hillColor? := by
  have hterrain (board : Board) (i : Nat) :
      board.hillColor? i = (board.ground.cell? i).bind (·.terrain.hillColor?) := by
    rw [cell?_ground, hillColor?]
    cases board.cell? i <;> rfl
  funext i
  rw [hterrain board', hterrain board, h]

theorem hills_eq_of_ground (h : board'.ground = board.ground) : board'.hills = board.hills := by
  have hsize : board'.ground.cells.size = board.ground.cells.size := by rw [h]
  simp only [ground, Array.size_map] at hsize
  rw [hills, hillsAmong, hsize, hillColor?_eq_of_ground h, hills, hillsAmong]

/-- Boards of one ground have the same frame. -/
theorem toFrame_eq_of_ground (h : board'.ground = board.ground) :
    board'.toFrame = board.toFrame := by
  change board'.ground.toFrame = board.ground.toFrame
  rw [h]

/-- On one ground, cells are linked alike. -/
theorem Wired.of_ground (hwired : board.Wired) (h : board'.ground = board.ground) :
    board'.Wired := by
  have hframe := toFrame_eq_of_ground h
  refine ⟨?_, ?_⟩
  · have hsize : board'.ground.cells.size = board.ground.cells.size := by rw [h]
    simp only [ground, Array.size_map] at hsize
    rw [hsize, hwired.size_eq, hframe]
  · intro i cell' hcell' d
    obtain ⟨cell, hcell, hground⟩ := exists_cell?_of_ground h.symm hcell'
    rw [← Cell.link_eq_of_ground hground d, hwired.link_eq hcell d, hframe]

/-- A cell of a wired board has a number in the frame. -/
theorem Wired.lt_of_cell? {cell : Cell} (hwired : board.Wired) (hcell : board.cell? i = some cell) :
    i < board.height * board.width := by
  rw [← hwired.size_eq]
  exact (Array.getElem?_eq_some_iff.1 hcell).1

/-- The neighbours on a wired board are the neighbours on the lattice. -/
theorem Wired.neighbor?_eq_some_iff {j : Nat} {d : Direction} (hwired : board.Wired) :
    board.neighbor? i d = some j ↔
      i < board.height * board.width ∧ board.index? (d.step (board.hex i)) = some j := by
  rw [neighbor?]
  cases hcell : board.cell? i with
  | some cell => simp [hwired.link_eq hcell, hwired.lt_of_cell? hcell]
  | none =>
    have hge : board.height * board.width ≤ i := by
      rw [← hwired.size_eq]
      exact Array.getElem?_eq_none_iff.1 hcell
    simp only [reduceCtorEq, false_iff, not_and]
    omega

/-- A board made from a world has the world's cells. -/
theorem cell?_ofMap (world : WorldMap) (i : Nat) :
    (ofMap world).cell? i =
      if i < world.height * world.width then some (layCell world i) else none := by
  rw [cell?, ofMap, Array.getElem?_map, Array.getElem?_range]
  split <;> rfl

/-- Nobody stands on a board made from a world. -/
theorem vacant_ofMap (world : WorldMap) : (ofMap world).Vacant := by
  intro i cell hcell
  rw [cell?_ofMap] at hcell
  split at hcell
  · obtain rfl := Option.some.inj hcell
    rfl
  · simp at hcell

/-- On a board made from a world the cells are linked to the cells around them. -/
theorem wired_ofMap (world : WorldMap) : (ofMap world).Wired := by
  refine ⟨by simp [ofMap], ?_⟩
  intro i cell hcell d
  rw [cell?_ofMap] at hcell
  split at hcell
  · obtain rfl := Option.some.inj hcell
    exact Links.get_ofFn ..
  · simp at hcell

/-- On a board made from a world there is nothing on rock. -/
theorem rockBare_ofMap (world : WorldMap) : (ofMap world).RockBare := by
  intro i cell hcell hrock
  rw [cell?_ofMap] at hcell
  split at hcell
  · obtain rfl := Option.some.inj hcell
    have hterrain : Terrain.ofTile (world.tileAt (world.hex i).row.toNat (world.hex i).col.toNat) =
        .rock := of_decide_eq_true hrock
    simp only [Cell.Bare, layCell, Cell.new, Cell.ground, if_pos hterrain]
  · simp at hcell

/-- The board was made from a world, whatever has been put on it since. -/
def LaidOut (board : Board) (world : WorldMap) : Prop := board.ground = (ofMap world).ground

/-- A board made from a world stays wired. -/
theorem LaidOut.wired (hlaid : board.LaidOut world) : board.Wired :=
  (wired_ofMap world).of_ground hlaid

/-- A board made from a world stays in the world's frame. -/
theorem LaidOut.toFrame_eq (hlaid : board.LaidOut world) : board.toFrame = world.toFrame :=
  toFrame_eq_of_ground hlaid

/-- A board made from a world has the world's cells. -/
theorem LaidOut.lt_of_cell? {cell : Cell} (hlaid : board.LaidOut world)
    (hcell : board.cell? i = some cell) : i < world.height * world.width := by
  rw [← hlaid.toFrame_eq]
  exact hlaid.wired.lt_of_cell? hcell

theorem LaidOut.exists_cell? (hlaid : board.LaidOut world) (hi : i < world.height * world.width) :
    ∃ cell, board.cell? i = some cell := by
  refine ⟨_, Array.getElem?_eq_getElem ?_⟩
  rwa [hlaid.wired.size_eq, hlaid.toFrame_eq]

/-- A cell of a board made from a world is of the terrain that the world has there. -/
theorem LaidOut.terrain_eq {cell : Cell} (hlaid : board.LaidOut world)
    (hcell : board.cell? i = some cell) :
    cell.terrain = .ofTile (world.tiles.getD i .rock) := by
  obtain ⟨laid, hfound, hground⟩ := exists_cell?_of_ground hlaid.symm hcell
  rw [cell?_ofMap] at hfound
  split at hfound
  · obtain rfl := Option.some.inj hfound
    rw [← Cell.terrain_eq_of_ground hground, layCell, Cell.new]
    simp only [WorldMap.tileAt_hex]
  · simp at hfound

/-- A cell of a board made from a world is on open ground if it is no rock. -/
theorem LaidOut.mem_openCells_iff {cell : Cell} (hlaid : board.LaidOut world)
    (hcell : board.cell? i = some cell) : world.hex i ∈ world.openCells ↔ cell.isRock = false := by
  have hi := hlaid.lt_of_cell? hcell
  rw [Cell.isRock, hlaid.terrain_eq hcell, WorldMap.openCells, Set.mem_ofPred_eq,
    WorldMap.tile?_hex hi, Array.getD_eq_getD_getElem?, decide_eq_false_iff_not]
  cases world.tiles[i]? with
  | none => simp [Terrain.ofTile]
  | some tile => cases tile <;> simp [Terrain.ofTile]

/-- The hill cells of a board made from a world are those of the world. -/
theorem LaidOut.tile?_of_hillColor? {color : Color} (hlaid : board.LaidOut world)
    (hcolor : board.hillColor? i = some color) :
    world.tile? (world.hex i) = some (.hill color) := by
  obtain ⟨cell, hcell, hterrain⟩ := Option.bind_eq_some_iff.1 hcolor
  have hi := hlaid.lt_of_cell? hcell
  rw [hlaid.terrain_eq hcell] at hterrain
  rw [WorldMap.tile?_hex hi]
  cases htile : world.tiles[i]? with
  | none => simp [htile, Terrain.ofTile, Terrain.hillColor?] at hterrain
  | some tile =>
    simp only [Array.getD_eq_getD_getElem?, htile, Option.getD_some] at hterrain
    cases tile with
    | hill other => exact congrArg (some ∘ Tile.hill) (Option.some.inj hterrain)
    | rock | clear | food => simp [Terrain.ofTile, Terrain.hillColor?] at hterrain

/-- The hills of a board made from a world are the world's hills. -/
theorem hills_ofMap (world : WorldMap) : (ofMap world).hills = world.hills := by
  have hsize : (ofMap world).cells.size = world.height * world.width := (wired_ofMap world).size_eq
  rw [hills, hillsAmong, hsize, WorldMap.hills]
  refine List.filterMap_congr fun i hi => ?_
  rw [hillColor?, cell?_ofMap, if_pos (List.mem_range.1 hi)]
  simp only [layCell, Cell.new, Option.bind_some, WorldMap.tileAt_hex]
  cases world.tiles.getD i .rock <;> rfl

end Board

/-- The hill cells of a world are where its hills are. -/
theorem WorldMap.tile?_of_mem_hills {world : WorldMap} {i : Nat} {color : Color}
    (h : (i, color) ∈ world.hills) : world.tile? (world.hex i) = some (.hill color) := by
  rw [← Board.hills_ofMap, Board.mem_hills_iff] at h
  exact Board.LaidOut.tile?_of_hillColor? rfl h

end Formicary
