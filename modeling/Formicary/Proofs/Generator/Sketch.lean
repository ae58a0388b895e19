import Formicary.Proofs.Generator.Layout

/-!
# Whole sketches

A sketch begins as clear ground inside an edge of rock, and every step of it adds one thing to
the layout. A sketch that is not given up has the rocks, the hills and the food blobs that the
contest rules ask for (`Sketch.drawWorld_spec`).
-/

namespace Formicary

/-- The extent of a contest world. -/
def contestFrame : Frame := ⟨contestSize, contestSize⟩

namespace Canvas

variable {width height : Nat} {x : Hex}

/-- A walled canvas is rock at the edge and clear ground elsewhere. -/
theorem paint?_walled (width height : Nat) (x : Hex) (paint : Paint) :
    (walled width height).paint? x = some paint ↔
      (walled width height).Contains x ∧
        (paint = .dry .rock ∧ x ∈ (walled width height).edge ∨
          paint = .dry .clear ∧ x ∉ (walled width height).edge) := by
  rw [paint?]
  cases hi : (walled width height).index? x with
  | none =>
    have hout : ¬(walled width height).Contains x := by
      intro hcontains
      rw [Frame.index?, if_pos hcontains] at hi
      cases hi
    simp [hout]
  | some i =>
    have hcontains := (Frame.index?_eq_some_iff.1 hi).1
    have hlt : i < height * width := Frame.lt_of_index? hi
    have hx : x = ⟨(i / width : Nat), (i % width : Nat)⟩ := (Frame.hex_of_index? hi).symm
    -- The row and the column of a cell are quotient and remainder of its number.
    have hedge : x ∈ (walled width height).edge ↔
        i / width = 0 ∨ i / width = height - 1 ∨ i % width = 0 ∨ i % width = width - 1 := by
      obtain ⟨hrow₀, hrow, hcol₀, hcol⟩ := hcontains
      have hheight : (walled width height).height = height := rfl
      have hwidth : (walled width height).width = width := rfl
      generalize i / width = r at hx ⊢
      generalize i % width = c at hx ⊢
      subst hx
      simp only [Frame.edge, Set.mem_ofPred_eq, Frame.Contains, hheight, hwidth] at hrow hcol ⊢
      omega
    have hcell : (walled width height).cells[i]? =
        some (if i / width = 0 ∨ i / width = height - 1 ∨ i % width = 0 ∨ i % width = width - 1
          then .dry .rock else .dry .clear) := by
      simp [walled, hlt]
    by_cases h : x ∈ (walled width height).edge
    · rw [if_pos (hedge.1 h)] at hcell
      simp [hcell, hcontains, h, eq_comm]
    · rw [if_neg (hedge.not.1 h)] at hcell
      simp [hcell, hcontains, h, eq_comm]

/-- On a walled canvas the edge is the only thing. -/
theorem layout_walled (hwidth : 0 < width) (hheight : 0 < height) :
    Layout (walled width height) [(.rock, (walled width height).edge)] [] where
  wellFormed := Array.size_ofFn
  isDry x hwet := by
    rw [paint?_walled] at hwet
    simp at hwet
  painted_iff tile htile x := by
    rw [paint?_walled]
    simp only [Paint.dry.injEq, htile, false_and, or_false, List.map_nil, List.append_nil,
      List.mem_singleton, exists_eq_left]
    exact ⟨fun h => ⟨h.2.1.symm, h.2.2⟩, fun h => ⟨h.2.1, h.1.symm, h.2⟩⟩
  solid := by simp [Tile.isFood]
  connected thing hthing := by
    obtain rfl := List.mem_singleton.1 hthing
    exact Frame.connected_edge hwidth hheight
  apart := List.pairwise_singleton ..
  food := by simp
  disjoint := List.Pairwise.nil

end Canvas

namespace Sketch

open Canvas

/-- What every step adds to, a number of steps add to as often. -/
theorem paintMany_spec {paintOne : Sketch → Except Rng Sketch} {P : Nat → Sketch → Prop}
    (hstep : ∀ n sketch sketch', paintOne sketch = .ok sketch' → P n sketch → P (n + 1) sketch')
    {count n : Nat} {sketch sketch' : Sketch} (h : paintMany paintOne count sketch = .ok sketch')
    (hP : P n sketch) : P (n + count) sketch' := by
  induction count generalizing n sketch with
  | zero =>
    obtain rfl := Except.ok.inj h
    exact hP
  | succ count ih =>
    rw [paintMany] at h
    obtain ⟨next, hone, hrest⟩ := eq_ok_of_bind h
    rw [← Nat.add_assoc, Nat.add_right_comm]
    exact ih hrest (hstep n sketch next hone hP)

/-- A stamp that has been put down has been put down on some cell. -/
theorem put_spec {sketch sketch' : Sketch} {stamp : Stamp} {paint : Paint}
    (h : sketch.put stamp paint = .ok sketch') :
    ∃ corner, sketch.canvas.superimpose stamp corner paint = some sketch'.canvas := by
  obtain ⟨placed, hplace, hrest⟩ := eq_ok_of_bind h
  obtain rfl := Except.ok.inj hrest
  exact ⟨placed.1, (placeWithin_spec hplace).1⟩

variable {sketch sketch' : Sketch} {solids : List (Tile × Set Hex)} {blobs : List Blob}

/-- Painting a rock adds a rock. -/
theorem layout_drawRock (h : sketch.drawRock = .ok sketch')
    (hlayout : Layout sketch.canvas solids blobs) :
    sketch'.canvas.toFrame = sketch.canvas.toFrame ∧
      ∃ S, Layout sketch'.canvas ((.rock, S) :: solids) blobs := by
  obtain ⟨S, hpainted, hconnected, hisolated⟩ := drawRock_spec h hlayout.wellFormed hlayout.isDry
  exact ⟨hpainted.frame_eq, S,
    hlayout.addSolid hpainted (by simp [Tile.isFood]) hconnected hisolated⟩

/-- Putting a hill down adds a hill. -/
theorem layout_hill {color : Color} (h : sketch.put Stamp.hill (.dry (.hill color)) = .ok sketch')
    (hlayout : Layout sketch.canvas solids blobs) :
    sketch'.canvas.toFrame = sketch.canvas.toFrame ∧
      ∃ corner : Hex, (0 ≤ corner.row ∧ 0 ≤ corner.col) ∧
        Layout sketch'.canvas ((.hill color, Stamp.hill.bodyAt corner) :: solids) blobs := by
  obtain ⟨corner, hsuper⟩ := put_spec h
  obtain ⟨hpainted, hcorner, hclear⟩ := painted_of_superimpose hlayout.wellFormed hlayout.isDry
    (Stamp.rectangular _ (by simp)) hsuper
  have hisolated := isolated_bodyAt (Stamp.margined _ List.mem_cons_self) hclear
  exact ⟨hpainted.frame_eq, corner, hcorner, hlayout.addSolid hpainted (by simp [Tile.isFood])
    (Stamp.connected_bodyAt (by simp) corner) hisolated⟩

/-- A food stamp that is put down is one more food blob. -/
theorem layout_food {canvas canvas' : Canvas} {stamp : Stamp} {corner : Hex}
    (hstamp : stamp ∈ Stamp.foods)
    (h : canvas.superimpose stamp corner (.dry (.food contestFood)) = some canvas')
    (hlayout : Layout canvas solids blobs) :
    canvas'.toFrame = canvas.toFrame ∧ Layout canvas' solids ((stamp, corner) :: blobs) := by
  obtain ⟨hpainted, hcorner, -⟩ := painted_of_superimpose hlayout.wellFormed hlayout.isDry
    (Stamp.rectangular _ (by simp [hstamp])) h
  exact ⟨hpainted.frame_eq, hlayout.addBlob hpainted hstamp hcorner⟩

/-- Every food blob is drawn with one of the food stamps. -/
theorem randomFood_mem (rng : Rng) : (randomStamp Stamp.foods rng).1 ∈ Stamp.foods :=
  randomStamp_mem (by decide) (by decide) rng

/-- Painting a food blob adds a food blob. -/
theorem layout_drawBlob (h : sketch.drawBlob = .ok sketch')
    (hlayout : Layout sketch.canvas solids blobs) :
    sketch'.canvas.toFrame = sketch.canvas.toFrame ∧
      ∃ blob, Layout sketch'.canvas solids (blob :: blobs) := by
  obtain ⟨corner, hsuper⟩ := put_spec h
  obtain ⟨hframe, hlayout'⟩ := layout_food (randomFood_mem sketch.rng) hsuper hlayout
  exact ⟨hframe, _, hlayout'⟩

/-- The solid things of a contest world: a hill of each colour, and rocks. -/
def landmarks (nest : Color → Hex) (rocks : List (Set Hex)) : List (Tile × Set Hex) :=
  (.hill .black, Stamp.hill.bodyAt (nest .black)) :: (.hill .red, Stamp.hill.bodyAt (nest .red)) ::
    rocks.map (Prod.mk Tile.rock)

/-- A canvas of the size of a contest world with its landmarks, and some food blobs. The edge counts
as one of the rocks. -/
structure Landscape (canvas : Canvas) (nest : Color → Hex) (rocks : List (Set Hex))
    (blobs : List Blob) : Prop where
  /-- The canvas is as large as a contest world. -/
  frame_eq : canvas.toFrame = contestFrame
  /-- The hills have their corners on the canvas. -/
  nest_nonneg : ∀ color, 0 ≤ (nest color).row ∧ 0 ≤ (nest color).col
  /-- There are as many rocks as the contest rules ask for. -/
  length_rocks : rocks.length = contestRocks
  /-- One of the rocks is the edge. -/
  edge_mem : contestFrame.edge ∈ rocks
  /-- The landmarks and the food blobs are what is painted. -/
  layout : Layout canvas (landmarks nest rocks) blobs

/-- What is painted before the food: the rocks, the red and the black hill. -/
def drawGround (rng : Rng) : Except Rng Sketch := do
  let sketch ←
    paintMany drawRock rockCount ⟨Canvas.walled contestSize contestSize, maxTrials, rng⟩
  let sketch ← sketch.put Stamp.hill (.dry (.hill .red))
  sketch.put Stamp.hill (.dry (.hill .black))

theorem drawWorld_eq (rng : Rng) :
    drawWorld rng = drawGround rng >>= paintMany drawBlob contestBlobs := by
  simp only [drawWorld, drawGround, bind_assoc]

/-- Before the food is painted a sketch has the edge and fourteen rocks, and one hill of each
colour. -/
theorem drawGround_spec {rng : Rng} (h : drawGround rng = .ok sketch) :
    ∃ (nest : Color → Hex) (rocks : List (Set Hex)), Landscape sketch.canvas nest rocks [] := by
  obtain ⟨stones, hstones, h⟩ := eq_ok_of_bind h
  obtain ⟨red, hred, hblack⟩ := eq_ok_of_bind h
  -- The edge counts as the first rock.
  have hrocks := paintMany_spec (P := fun n sketch => sketch.canvas.toFrame = contestFrame ∧
      ∃ rocks : List (Set Hex), rocks.length = n ∧ contestFrame.edge ∈ rocks ∧
        Layout sketch.canvas (rocks.map (Prod.mk Tile.rock)) [])
    (n := 1) ?_ hstones ?_
  · obtain ⟨hframe, rocks, hcount, hedge, hlayout⟩ := hrocks
    obtain ⟨hsame, redCorner, hredCorner, hlayout⟩ := layout_hill hred hlayout
    obtain ⟨hsame', blackCorner, hblackCorner, hlayout⟩ := layout_hill hblack hlayout
    refine ⟨fun color => if color = .red then redCorner else blackCorner, rocks,
      hsame'.trans (hsame.trans hframe), fun color => ?_, hcount, hedge, hlayout⟩
    cases color with
    | red => exact hredCorner
    | black => exact hblackCorner
  · rintro n sketch sketch' hone ⟨hframe, rocks, hcount, hedge, hlayout⟩
    obtain ⟨hsame, S, hlayout'⟩ := layout_drawRock hone hlayout
    exact ⟨hsame.trans hframe, S :: rocks, congrArg (· + 1) hcount,
      List.mem_cons_of_mem S hedge, hlayout'⟩
  · exact ⟨rfl, [contestFrame.edge], rfl, List.mem_singleton_self _,
      layout_walled (by decide) (by decide)⟩

/-- A whole sketch has, besides, eleven food blobs. -/
theorem drawWorld_spec {rng : Rng} (h : drawWorld rng = .ok sketch) :
    ∃ (nest : Color → Hex) (rocks : List (Set Hex)) (blobs : List Blob),
      blobs.length = contestBlobs ∧ Landscape sketch.canvas nest rocks blobs := by
  rw [drawWorld_eq] at h
  obtain ⟨ground, hground, hfood⟩ := eq_ok_of_bind h
  obtain ⟨nest, rocks, hland⟩ := drawGround_spec hground
  have hblobs := paintMany_spec (P := fun n sketch => sketch.canvas.toFrame = contestFrame ∧
      ∃ blobs : List Blob, blobs.length = n ∧ Layout sketch.canvas (landmarks nest rocks) blobs)
    (n := 0) ?_ hfood ⟨hland.frame_eq, [], rfl, hland.layout⟩
  · obtain ⟨hframe, blobs, hcount, hlayout⟩ := hblobs
    rw [Nat.zero_add] at hcount
    exact ⟨nest, rocks, blobs, hcount, { hland with frame_eq := hframe, layout := hlayout }⟩
  · rintro n sketch sketch' hone ⟨hframe, blobs, hcount, hlayout⟩
    obtain ⟨hsame, blob, hlayout'⟩ := layout_drawBlob hone hlayout
    exact ⟨hsame.trans hframe, blob :: blobs, congrArg (· + 1) hcount, hlayout'⟩

end Sketch

end Formicary
