import Formicary.Proofs.Generator.Rock

/-!
# Layouts

What has been painted on a canvas is kept as two lists: solid things, each of one tile, which keep
apart from each other (the edge, the rocks and the hills), and food blobs, which may touch
anything (`Canvas.Layout`). Every step of a sketch adds one thing, so a whole sketch has as many
rocks, hills and blobs as the contest rules ask for (`Sketch.drawWorld_spec`).
-/

namespace Formicary

/-- Two cells lie so many rows or columns apart that food blobs which have their corners there do
not touch. -/
def Hex.FarFrom (a b : Hex) : Prop :=
  10 ≤ (a.row - b.row).natAbs ∨ 8 ≤ (a.col - b.col).natAbs

instance (a b : Hex) : Decidable (a.FarFrom b) :=
  inferInstanceAs (Decidable (10 ≤ (a.row - b.row).natAbs ∨ 8 ≤ (a.col - b.col).natAbs))

namespace Canvas

/-! ### Layouts -/

/-- A food blob: its stamp and the cell on which the corner is put. -/
abbrev Blob := Stamp × Hex

/-- What a food blob paints. -/
def Blob.thing (blob : Blob) : Tile × Set Hex := (.food contestFood, blob.1.bodyAt blob.2)

/-- What is painted on a canvas: solid things and food blobs, each with the tile that is painted
and the cells on which it is painted. -/
structure Layout (canvas : Canvas) (solids : List (Tile × Set Hex)) (blobs : List Blob) : Prop where
  /-- There is paint for every cell. -/
  wellFormed : canvas.WellFormed
  /-- No walk is in progress. -/
  isDry : canvas.IsDry
  /-- What is painted is painted by one of the things. -/
  painted_iff : ∀ tile ≠ .clear, ∀ x, canvas.paint? x = some (.dry tile) ↔
    ∃ thing ∈ solids ++ blobs.map Blob.thing, thing.1 = tile ∧ x ∈ thing.2
  /-- Solid things are painted, but not with food. -/
  solid : ∀ thing ∈ solids, thing.1 ≠ .clear ∧ thing.1.isFood = false
  /-- Solid things are connected. -/
  connected : ∀ thing ∈ solids, Hex.Connected thing.2
  /-- Solid things keep apart from each other. -/
  apart : solids.Pairwise fun thing thing' => Hex.Apart thing.2 thing'.2
  /-- Food blobs are drawn by food stamps, whose corners are on the canvas. -/
  food : ∀ blob ∈ blobs, blob.1 ∈ Stamp.foods ∧ 0 ≤ blob.2.row ∧ 0 ≤ blob.2.col
  /-- Food blobs do not overlap. -/
  disjoint : blobs.Pairwise fun blob blob' =>
    ∀ x ∈ blob.1.bodyAt blob.2, x ∉ blob'.1.bodyAt blob'.2

variable {canvas canvas' : Canvas} {solids : List (Tile × Set Hex)} {blobs : List Blob}
  {S : Set Hex} {tile : Tile}

/-- After painting there is what has been painted and what was there before. -/
theorem Painted.paint?_eq_iff (hpainted : Painted canvas canvas' S tile) {tile' : Tile}
    (htile' : tile' ≠ .clear) (x : Hex) : canvas'.paint? x = some (.dry tile') ↔
      (tile = tile' ∧ x ∈ S) ∨ canvas.paint? x = some (.dry tile') := by
  by_cases hx : x ∈ S
  · rw [hpainted.painted x hx, hpainted.was_clear x hx]
    simp [hx, htile'.symm]
  · rw [hpainted.unchanged x hx]
    simp [hx]

/-- The cells of the things of a layout are not clear. -/
theorem Layout.not_clear (hlayout : Layout canvas solids blobs) {thing : Tile × Set Hex}
    (hthing : thing ∈ solids ++ blobs.map Blob.thing) (hne : thing.1 ≠ .clear) :
    ∀ x ∈ thing.2, canvas.paint? x ≠ some (.dry .clear) := by
  intro x hx
  rw [(hlayout.painted_iff thing.1 hne x).2 ⟨thing, hthing, rfl, hx⟩]
  simpa using hne

/-- A connected thing that is painted with clear ground around it is one more solid thing. -/
theorem Layout.addSolid (hlayout : Layout canvas solids blobs)
    (hpainted : Painted canvas canvas' S tile)
    (hsolid : tile ≠ .clear ∧ tile.isFood = false) (hconnected : Hex.Connected S)
    (hisolated : canvas.Isolated S) : Layout canvas' ((tile, S) :: solids) blobs where
  wellFormed := hpainted.wellFormed
  isDry := hpainted.isDry hlayout.isDry
  painted_iff tile' htile' x := by
    rw [hpainted.paint?_eq_iff htile', hlayout.painted_iff tile' htile', List.cons_append]
    simp only [List.mem_cons, or_and_right, exists_or, exists_eq_left]
  solid := List.forall_mem_cons.2 ⟨hsolid, hlayout.solid⟩
  connected := List.forall_mem_cons.2 ⟨hconnected, hlayout.connected⟩
  apart := by
    refine List.pairwise_cons.2 ⟨fun thing hthing => ?_, hlayout.apart⟩
    exact hisolated.apart hpainted.was_clear
      (hlayout.not_clear (List.mem_append_left _ hthing) (hlayout.solid thing hthing).1)
  food := hlayout.food
  disjoint := hlayout.disjoint

/-- A food stamp that is painted is one more food blob. -/
theorem Layout.addBlob (hlayout : Layout canvas solids blobs) {stamp : Stamp} {corner : Hex}
    (hpainted : Painted canvas canvas' (stamp.bodyAt corner) (.food contestFood))
    (hstamp : stamp ∈ Stamp.foods) (hcorner : 0 ≤ corner.row ∧ 0 ≤ corner.col) :
    Layout canvas' solids ((stamp, corner) :: blobs) where
  wellFormed := hpainted.wellFormed
  isDry := hpainted.isDry hlayout.isDry
  painted_iff tile htile x := by
    rw [hpainted.paint?_eq_iff htile, hlayout.painted_iff tile htile]
    simp only [List.map_cons, List.mem_append, List.mem_cons, Blob.thing]
    constructor
    · rintro (⟨rfl, hx⟩ | ⟨thing, hthing, hx⟩)
      · exact ⟨_, Or.inr (Or.inl rfl), rfl, hx⟩
      · exact ⟨thing, hthing.imp_right Or.inr, hx⟩
    · rintro ⟨thing, hsolid | rfl | hblob, rfl, hx⟩
      · exact Or.inr ⟨thing, Or.inl hsolid, rfl, hx⟩
      · exact Or.inl ⟨rfl, hx⟩
      · exact Or.inr ⟨thing, Or.inr hblob, rfl, hx⟩
  solid := hlayout.solid
  connected := hlayout.connected
  apart := hlayout.apart
  food := List.forall_mem_cons.2 ⟨⟨hstamp, hcorner⟩, hlayout.food⟩
  disjoint := by
    refine List.pairwise_cons.2 ⟨fun blob' hblob' => ?_, hlayout.disjoint⟩
    have hmem : blob'.thing ∈ solids ++ blobs.map Blob.thing :=
      List.mem_append_right _ (List.mem_map_of_mem hblob')
    -- A cell of both would have been painted before and clear when the new blob was painted.
    intro x hx hx'
    exact hlayout.not_clear hmem (by simp [Blob.thing]) x hx' (hpainted.was_clear x hx)

end Canvas

end Formicary
