import Formicary.Generator.Generate
import Formicary.Proofs.Generator.Sketch
import Formicary.Proofs.World.Text

/-!
# Canvases as worlds

A canvas on which no walk is in progress shows a world, and its drawing is the printed form of
this world (`Canvas.render_eq_text`).
-/

namespace Formicary

/-- The tile that a paint stands for when it has dried. -/
def Paint.tile : Paint → Tile
  | .dry tile => tile
  | .wetRock => .rock

namespace Canvas

/-- The world that a canvas shows. -/
def world (canvas : Canvas) : WorldMap :=
  { canvas.toFrame with tiles := canvas.cells.map Paint.tile }

variable {canvas : Canvas} {row : Nat}

theorem WellFormed.world (hcanvas : canvas.WellFormed) : canvas.world.WellFormed := by
  rw [WorldMap.WellFormed, Canvas.world, Array.size_map, hcanvas, Nat.mul_comm]

/-- On a cell of the world there is the tile of its paint. -/
theorem tile?_world (canvas : Canvas) (x : Hex) :
    canvas.world.tile? x = (canvas.paint? x).map Paint.tile := by
  have hframe : canvas.world.index? x = canvas.index? x := rfl
  rw [WorldMap.tile?, paint?, hframe]
  cases canvas.index? x with
  | none => rfl
  | some i => exact Array.getElem?_map ..

/-- The world of a canvas without wet rock is what is painted on it. -/
theorem tile?_world_eq_iff (hdry : canvas.IsDry) {x : Hex} {tile : Tile} :
    canvas.world.tile? x = some tile ↔ canvas.paint? x = some (.dry tile) := by
  rw [tile?_world]
  cases hp : canvas.paint? x with
  | none => simp
  | some p =>
    cases p with
    | dry tile' => simp [Paint.tile]
    | wetRock => exact absurd hp (hdry x)

/-- Without wet rock every paint is drawn like its tile. -/
theorem symbol_paintAt (hcanvas : canvas.WellFormed) (hdry : canvas.IsDry) (row col : Nat) :
    (canvas.paintAt row col).symbol = (canvas.world.tileAt row col).symbol := by
  by_cases hlt : row * canvas.width + col < canvas.cells.size
  · have hpaint : canvas.paint? (canvas.hex (row * canvas.width + col)) =
        some (canvas.paintAt row col) := by
      have hi := canvas.index?_hex (hcanvas ▸ hlt)
      rw [paint?, hi]
      simp [paintAt, hlt]
    have htile : canvas.world.tileAt row col = (canvas.paintAt row col).tile := by
      simp [WorldMap.tileAt, paintAt, world, hlt]
    rw [htile]
    cases hp : canvas.paintAt row col with
    | dry tile => rfl
    | wetRock =>
      rw [hp] at hpaint
      exact absurd hpaint (hdry _)
  · simp [WorldMap.tileAt, paintAt, world, hlt]
    rfl

/-- A row of the canvas is drawn like the row of the world. -/
theorem rowLine_eq (hcanvas : canvas.WellFormed) (hdry : canvas.IsDry) (row : Nat) :
    canvas.rowLine row = canvas.world.rowLine row := by
  have hsymbols : ((List.range canvas.width).flatMap fun col =>
      (if col = 0 then [] else [' ']) ++ [(canvas.paintAt row col).symbol]) =
        [' '].intercalate ((canvas.world.rowTiles row).map fun tile => [tile.symbol]) := by
    have hwidth : canvas.world.width = canvas.width := rfl
    rw [WorldMap.rowTiles, hwidth]
    simp only [symbol_paintAt hcanvas hdry]
    cases canvas.width with
    | zero => rfl
    | succ width =>
      rw [List.range_succ_eq_map, List.map_cons, Text.intercalate_map_singleton]
      simp [List.flatMap_cons, List.flatMap_map]
  rw [rowLine, WorldMap.rowLine, hsymbols]
  by_cases hodd : row % 2 = 1
  · rw [if_pos hodd, if_pos hodd]
    rfl
  · rw [if_neg hodd, if_neg hodd]
    rfl

/-- The drawing of a canvas without wet rock is the printed form of its world. -/
theorem render_eq_text (hcanvas : canvas.WellFormed) (hdry : canvas.IsDry) :
    canvas.render = canvas.world.text := by
  have hwidth : canvas.world.width = canvas.width := rfl
  have hheight : canvas.world.height = canvas.height := rfl
  rw [render, WorldMap.text, WorldMap.textLines, hwidth, hheight]
  simp only [rowLine_eq hcanvas hdry]
  simp [List.flatMap_cons, List.flatMap_map]

end Canvas

end Formicary
