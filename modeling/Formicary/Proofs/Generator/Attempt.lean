import Formicary.Proofs.Generator.Draft
import Formicary.Proofs.Generator.Render
import Formicary.Proofs.World.Contest

/-!
# Attempts at a contest world

The world that a layout shows has the solid things of the layout as its regions of rock and its
hills. So the source that an attempt brings satisfies all contest rules but one: food blobs that
touch may make a region that cannot be divided into legal blobs
(`Sketch.Landscape.regular_world`). If no food blobs touch, so that every region of food is one
blob, the source is accepted (`Sketch.checkContest_eq_ok`). The sample is such a source
(`exists_sample`).
-/

namespace Formicary

namespace Canvas

variable {canvas : Canvas} {solids : List (Tile × Set Hex)} {blobs : List Blob} {tile : Tile}
  {x : Hex}

/-! ### Solid things -/

/-- On a solid tile there is what has been painted with this tile. -/
theorem Layout.tile?_eq_iff (hlayout : Layout canvas solids blobs) (hclear : tile ≠ .clear)
    (hfood : tile.isFood = false) :
    canvas.world.tile? x = some tile ↔ ∃ thing ∈ solids, thing.1 = tile ∧ x ∈ thing.2 := by
  rw [tile?_world_eq_iff hlayout.isDry, hlayout.painted_iff tile hclear]
  constructor
  · rintro ⟨thing, hthing, rfl, hx⟩
    rcases List.mem_append.1 hthing with hsolid | hblob
    · exact ⟨thing, hsolid, rfl, hx⟩
    · obtain ⟨blob, -, rfl⟩ := List.mem_map.1 hblob
      simp [Blob.thing, Tile.isFood] at hfood
  · rintro ⟨thing, hsolid, htile, hx⟩
    exact ⟨thing, List.mem_append_left _ hsolid, htile, hx⟩

/-- The cells of a solid tile are the cells of its things. -/
theorem Layout.mem_cellsOf_iff (hlayout : Layout canvas solids blobs) (hclear : tile ≠ .clear)
    (hfood : tile.isFood = false) :
    x ∈ canvas.world.cellsOf tile ↔ ∃ thing ∈ solids, thing.1 = tile ∧ x ∈ thing.2 := by
  have hkind : ∀ tile' : Tile, tile'.sameKind tile = true ↔ tile' = tile := by
    intro tile'
    cases tile <;> cases tile' <;> simp_all [Tile.sameKind, Tile.isFood]
  rw [← hlayout.tile?_eq_iff hclear hfood, WorldMap.cellsOf, Set.mem_ofPred_eq]
  simp only [hkind, exists_eq_right]

/-- The regions of a solid tile are its things. -/
theorem Layout.isRegion_iff (hlayout : Layout canvas solids blobs) (hclear : tile ≠ .clear)
    (hfood : tile.isFood = false) {R : Set Hex} :
    Hex.IsRegion (canvas.world.cellsOf tile) R ↔ (tile, R) ∈ solids := by
  have hmem : ∀ S, S ∈ (solids.filter (·.1 = tile)).map Prod.snd ↔ (tile, S) ∈ solids := by
    intro S
    simp [Prod.exists]
  have hunion : ∀ x, x ∈ canvas.world.cellsOf tile ↔
      ∃ S ∈ (solids.filter (·.1 = tile)).map Prod.snd, x ∈ S := by
    intro x
    rw [hlayout.mem_cellsOf_iff hclear hfood]
    constructor
    · rintro ⟨⟨tile, S⟩, hthing, rfl, hx⟩
      exact ⟨S, (hmem S).2 hthing, hx⟩
    · rintro ⟨S, hS, hx⟩
      exact ⟨(tile, S), (hmem S).1 hS, rfl, hx⟩
  have hconnected : ∀ S ∈ (solids.filter (·.1 = tile)).map Prod.snd, Hex.Connected S :=
    fun S hS => hlayout.connected _ ((hmem S).1 hS)
  rw [Hex.isRegion_iff_of_parts hunion hconnected (List.pairwise_map.2 (hlayout.apart.filter _)),
    hmem]

/-- Solid things of different tiles do not touch. -/
theorem Layout.not_touching (hlayout : Layout canvas solids blobs) {thing thing' : Tile × Set Hex}
    (hthing : thing ∈ solids) (hthing' : thing' ∈ solids) (hne : thing.1 ≠ thing'.1)
    (hx : x ∈ thing.2) (d : Direction) : d.step x ∉ thing'.2 := by
  intro hstep
  have hsymm : Std.Symm fun thing thing' : Tile × Set Hex => Hex.Apart thing.2 thing'.2 :=
    ⟨fun _ _ h => h.symm⟩
  have hapart := hlayout.apart.forall hthing hthing' (fun h => hne (congrArg Prod.fst h))
  exact (hapart x hx _ hstep).2 (Hex.adjacent_step d x)

/-! ### Food -/

/-- All food is of the contest's amount and lies where the food blobs are. -/
theorem Layout.tile?_eq_food_iff (hlayout : Layout canvas solids blobs) {amount : Nat} :
    canvas.world.tile? x = some (.food amount) ↔
      amount = contestFood ∧ ∃ blob ∈ blobs, x ∈ blob.1.bodyAt blob.2 := by
  rw [tile?_world_eq_iff hlayout.isDry, hlayout.painted_iff _ (by simp)]
  constructor
  · rintro ⟨thing, hthing, htile, hx⟩
    rcases List.mem_append.1 hthing with hsolid | hblob
    · have hfood := (hlayout.solid thing hsolid).2
      rw [htile] at hfood
      cases hfood
    · obtain ⟨blob, hmem, rfl⟩ := List.mem_map.1 hblob
      exact ⟨(Tile.food.inj htile).symm, blob, hmem, hx⟩
  · rintro ⟨rfl, blob, hblob, hx⟩
    exact ⟨blob.thing, List.mem_append_right _ (List.mem_map_of_mem hblob), rfl, hx⟩

theorem Layout.mem_cellsOf_food_iff (hlayout : Layout canvas solids blobs) :
    x ∈ canvas.world.cellsOf (.food contestFood) ↔
      ∃ blob ∈ blobs, x ∈ blob.1.bodyAt blob.2 := by
  constructor
  · rintro ⟨tile, htile, hkind⟩
    cases tile with
    | food amount => exact (hlayout.tile?_eq_food_iff.1 htile).2
    | rock | clear | hill => simp [Tile.sameKind] at hkind
  · intro hblob
    exact ⟨_, hlayout.tile?_eq_food_iff.2 ⟨rfl, hblob⟩, rfl⟩

/-- The cells of a food blob, one by one. -/
def Blob.cells (blob : Blob) : List Hex := blob.1.body.map blob.2.move

theorem Blob.mem_cells_iff {blob : Blob} : x ∈ blob.cells ↔ x ∈ blob.1.bodyAt blob.2 := by
  simp [Blob.cells, Stamp.bodyAt]

/-- A food blob has as many cells as the rules ask for. -/
theorem Layout.cells_spec (hlayout : Layout canvas solids blobs) {blob : Blob}
    (hblob : blob ∈ blobs) : blob.cells.Nodup ∧ blob.cells.length = Silhouette.blobCells := by
  obtain ⟨hnodup, hlength⟩ := Stamp.food_body blob.1 (hlayout.food blob hblob).1
  exact ⟨hnodup.map (Hex.move_injective blob.2), by rw [Blob.cells, List.length_map, hlength]⟩

theorem Layout.ncard_blob (hlayout : Layout canvas solids blobs) {blob : Blob}
    (hblob : blob ∈ blobs) : (blob.1.bodyAt blob.2).ncard = Silhouette.blobCells := by
  obtain ⟨hnodup, hlength⟩ := hlayout.cells_spec hblob
  have hset : blob.1.bodyAt blob.2 = {x | x ∈ blob.cells} :=
    Set.ext fun x => Blob.mem_cells_iff.symm
  rw [hset, WorldMap.ncard_setOf_mem hnodup, hlength]

/-- There is as much food as the food blobs have together. -/
theorem Layout.ncard_food (hlayout : Layout canvas solids blobs) :
    (canvas.world.cellsOf (.food contestFood)).ncard = blobs.length * Silhouette.blobCells := by
  have hnodup : (blobs.flatMap Blob.cells).Nodup := by
    refine List.nodup_flatMap.2 ⟨fun blob hblob => (hlayout.cells_spec hblob).1, ?_⟩
    refine hlayout.disjoint.imp fun hfar x hx hx' => ?_
    exact hfar x (Blob.mem_cells_iff.1 hx) (Blob.mem_cells_iff.1 hx')
  have hset : canvas.world.cellsOf (.food contestFood) = {x | x ∈ blobs.flatMap Blob.cells} := by
    ext x
    simp only [hlayout.mem_cellsOf_food_iff, Set.mem_ofPred_eq, List.mem_flatMap,
      Blob.mem_cells_iff]
  have hlength : blobs.map (fun blob => blob.cells.length) =
      blobs.map fun _ => Silhouette.blobCells :=
    List.map_congr_left fun blob hblob => (hlayout.cells_spec hblob).2
  rw [hset, WorldMap.ncard_setOf_mem hnodup, List.length_flatMap, hlength, List.map_const',
    List.sum_replicate_nat]

/-- A region of food with as many cells as one blob is a food blob. -/
theorem Layout.eq_blob (hlayout : Layout canvas solids blobs) {R : Set Hex}
    (hR : Hex.IsRegion (canvas.world.cellsOf (.food contestFood)) R)
    (hcount : R.ncard = Silhouette.blobCells) :
    ∃ blob ∈ blobs, R = blob.1.bodyAt blob.2 := by
  obtain ⟨x, hx⟩ := hR.nonempty
  obtain ⟨blob, hblob, hbody⟩ := hlayout.mem_cellsOf_food_iff.1 (hR.subset hx)
  have hconnected := Stamp.connected_bodyAt
    (List.mem_append_right _ (hlayout.food blob hblob).1) blob.2
  have hsub : blob.1.bodyAt blob.2 ⊆ R := hR.subset_of_connected hconnected
    (fun y hy => hlayout.mem_cellsOf_food_iff.2 ⟨blob, hblob, hy⟩) hx hbody
  have hfinite : R.Finite := Set.finite_of_ncard_pos (by rw [hcount]; decide)
  refine ⟨blob, hblob, (Set.eq_of_subset_of_ncard_le hsub ?_ hfinite).symm⟩
  rw [hcount, hlayout.ncard_blob hblob]

/-! ### Food blobs that do not touch -/

/-- If the corners of two food blobs are far from each other, the blobs do not touch. -/
theorem Blob.apart {blob blob' : Blob}
    (hblob : blob.1 ∈ Stamp.foods ∧ 0 ≤ blob.2.row ∧ 0 ≤ blob.2.col)
    (hblob' : blob'.1 ∈ Stamp.foods ∧ 0 ≤ blob'.2.row ∧ 0 ≤ blob'.2.col)
    (hfar : blob.2.FarFrom blob'.2) :
    Hex.Apart (blob.1.bodyAt blob.2) (blob'.1.bodyAt blob'.2) := by
  intro x hx y hy
  have hxBox := Stamp.food_box hblob.1 hblob.2.1 hblob.2.2 hx
  have hyBox := Stamp.food_box hblob'.1 hblob'.2.1 hblob'.2.2 hy
  rw [Hex.FarFrom] at hfar
  constructor
  · rintro rfl
    omega
  · intro hadjacent
    -- A step leads to a row and a column that are next to those it comes from.
    have hforth := And.intro hadjacent.row_le hadjacent.col_le
    have hback := And.intro hadjacent.symm.row_le hadjacent.symm.col_le
    omega

/-- If the corners of the food blobs are far from each other, every region of food is one blob. -/
theorem Layout.ncard_region (hlayout : Layout canvas solids blobs)
    (hfar : (blobs.map Prod.snd).Pairwise Hex.FarFrom) {R : Set Hex}
    (hR : Hex.IsRegion (canvas.world.cellsOf (.food contestFood)) R) :
    R.ncard = Silhouette.blobCells := by
  have hunion : ∀ x, x ∈ canvas.world.cellsOf (.food contestFood) ↔
      ∃ S ∈ blobs.map fun blob => blob.1.bodyAt blob.2, x ∈ S := by
    intro x
    simp only [hlayout.mem_cellsOf_food_iff, List.mem_map, exists_exists_and_eq_and]
  have hconnected : ∀ S ∈ blobs.map fun blob => blob.1.bodyAt blob.2, Hex.Connected S := by
    intro S hS
    obtain ⟨blob, hblob, rfl⟩ := List.mem_map.1 hS
    exact Stamp.connected_bodyAt (List.mem_append_right _ (hlayout.food blob hblob).1) blob.2
  have hapart : (blobs.map fun blob => blob.1.bodyAt blob.2).Pairwise Hex.Apart := by
    refine List.pairwise_map.2 ((List.pairwise_map.1 hfar).imp_of_mem fun hblob hblob' => ?_)
    exact Blob.apart (hlayout.food _ hblob) (hlayout.food _ hblob')
  rw [Hex.isRegion_iff_of_parts hunion hconnected hapart] at hR
  obtain ⟨blob, hblob, rfl⟩ := List.mem_map.1 hR
  exact hlayout.ncard_blob hblob

end Canvas

/-! ### Contest worlds -/

namespace Sketch

open Canvas

variable {canvas : Canvas} {nest : Color → Hex} {rocks : List (Set Hex)} {blobs : List Blob}

theorem mem_landmarks_iff {tile : Tile} {S : Set Hex} : (tile, S) ∈ landmarks nest rocks ↔
    (tile = .rock ∧ S ∈ rocks) ∨
      ∃ color, tile = .hill color ∧ S = Stamp.hill.bodyAt (nest color) := by
  -- The hills are listed one by one.
  have hcolor : ∀ p : Color → Prop, (∃ color, p color) ↔ p .black ∨ p .red := by
    intro p
    constructor
    · rintro ⟨color, h⟩
      cases color with
      | red => exact Or.inr h
      | black => exact Or.inl h
    · rintro (h | h)
      · exact ⟨_, h⟩
      · exact ⟨_, h⟩
  simp only [landmarks, List.mem_cons, Prod.mk.injEq, List.mem_map, hcolor]
  constructor
  · rintro (hblack | hred | ⟨S, hS, rfl, rfl⟩)
    · exact Or.inr (Or.inl hblack)
    · exact Or.inr (Or.inr hred)
    · exact Or.inl ⟨rfl, hS⟩
  · rintro (⟨rfl, hS⟩ | hblack | hred)
    · exact Or.inr (Or.inr ⟨S, hS, rfl, rfl⟩)
    · exact Or.inl hblack
    · exact Or.inr (Or.inl hred)

/-- The rocks of a layout are told apart. -/
theorem nodup_rocks (hlayout : Layout canvas (landmarks nest rocks) blobs) : rocks.Nodup := by
  have hapart := List.pairwise_map.1 (hlayout.apart.of_cons.of_cons)
  refine hapart.imp_of_mem fun hS _ hfar hsame => ?_
  obtain ⟨x, hx⟩ := (hlayout.connected _ (mem_landmarks_iff.2 (Or.inl ⟨rfl, hS⟩))).1
  exact (hfar x hx x (hsame ▸ hx)).1 rfl

/-- The hill of a colony is its one region. -/
theorem isRegion_hill_iff (hlayout : Layout canvas (landmarks nest rocks) blobs) (color : Color)
    {R : Set Hex} : Hex.IsRegion (canvas.world.cellsOf (.hill color)) R ↔
      R = Stamp.hill.bodyAt (nest color) := by
  rw [hlayout.isRegion_iff (by simp) rfl, mem_landmarks_iff]
  simp [eq_comm (a := color)]

/-- Next to a hill there is nothing solid but the hill itself. -/
theorem tile?_step_ne (hlayout : Layout canvas (landmarks nest rocks) blobs) {color : Color}
    {x : Hex} (hx : x ∈ canvas.world.cellsOf (.hill color)) (d : Direction) {tile : Tile}
    (hclear : tile ≠ .clear) (hfood : tile.isFood = false) (hne : tile ≠ .hill color) :
    canvas.world.tile? (d.step x) ≠ some tile := by
  intro hstep
  obtain ⟨thing, hthing, htile, hx⟩ := (hlayout.mem_cellsOf_iff (by simp) rfl).1 hx
  obtain ⟨thing', hthing', rfl, hx'⟩ := (hlayout.tile?_eq_iff hclear hfood).1 hstep
  exact hlayout.not_touching hthing hthing' (by rw [htile]; exact hne.symm) hx d hx'

/-- Next to a hill there is nothing that a hill may not touch. -/
theorem step_notMem_forbidden (hlayout : Layout canvas (landmarks nest rocks) blobs)
    {color : Color} {x : Hex} (hx : x ∈ canvas.world.cellsOf (.hill color)) (d : Direction) :
    d.step x ∉ canvas.world.forbidden (.hill color) := by
  rintro ⟨tile, htile, hforbids⟩
  cases tile with
  | rock => exact tile?_step_ne hlayout hx d (by simp) rfl (by simp) htile
  | hill other =>
    have hother : color ≠ other := of_decide_eq_true hforbids
    exact tile?_step_ne hlayout hx d (by simp) rfl (by simpa using hother.symm) htile
  | clear | food => simp [Tile.forbids] at hforbids

/-- There are as many regions of rock as the rules ask for. -/
theorem Landscape.ncard_rocks (h : Landscape canvas nest rocks blobs) :
    {R | Hex.IsRegion (canvas.world.cellsOf .rock) R}.ncard = contestRocks := by
  have hregions : {R | Hex.IsRegion (canvas.world.cellsOf .rock) R} = {R | R ∈ rocks} := by
    ext R
    rw [Set.mem_ofPred_eq, h.layout.isRegion_iff (by simp) rfl, mem_landmarks_iff]
    simp
  rw [hregions, WorldMap.ncard_setOf_mem (nodup_rocks h.layout), h.length_rocks]

/-- The edge is rock. -/
theorem Landscape.edge_rock (h : Landscape canvas nest rocks blobs) :
    ∀ x ∈ canvas.world.edge, canvas.world.tile? x = some .rock := by
  intro x hx
  have hsame : canvas.world.edge = contestFrame.edge := congrArg Frame.edge h.frame_eq
  rw [hsame] at hx
  rw [h.layout.tile?_eq_iff (by simp) rfl]
  exact ⟨_, mem_landmarks_iff.2 (Or.inl ⟨rfl, h.edge_mem⟩), rfl, hx⟩

/-- The hill of a colony is found, and it has the legal shape. -/
theorem Landscape.exists_legal_hill (h : Landscape canvas nest rocks blobs) (color : Color) :
    ∃ hill, canvas.world.soleHill color = .ok hill ∧ hill.isLegalHill = true := by
  obtain ⟨cells, hcells, hsole⟩ := WorldMap.soleHill_eq h.layout.wellFormed.world
    (fun x hx d => step_notMem_forbidden h.layout hx d) fun R => isRegion_hill_iff h.layout color
  obtain ⟨hrow, hcol⟩ := h.nest_nonneg color
  exact ⟨_, hsole, Stamp.isLegalHill_ofCells hrow hcol hcells⟩

/-- Hills touch neither rock nor each other. -/
theorem Landscape.distant (h : Landscape canvas nest rocks blobs) {color : Color} {x : Hex}
    (hx : x ∈ canvas.world.cellsOf (.hill color)) (d : Direction) :
    canvas.world.tile? (d.step x) ≠ some .rock ∧
      ∀ other ≠ color, canvas.world.tile? (d.step x) ≠ some (.hill other) := by
  refine ⟨tile?_step_ne h.layout hx d (by simp) rfl (by simp), fun other hother => ?_⟩
  exact tile?_step_ne h.layout hx d (by simp) rfl (by simpa using hother)

/-- A landscape with as many food blobs as the rules ask for shows a regular world. -/
theorem Landscape.regular_world (h : Landscape canvas nest rocks blobs)
    (hblobs : blobs.length = contestBlobs) : canvas.world.Regular where
  wellFormed := h.layout.wellFormed.world
  frame_eq := h.frame_eq
  edge := h.edge_rock
  rocks := h.ncard_rocks
  hill color := ⟨_, (isRegion_hill_iff h.layout color).2 rfl,
    fun _ hR => (isRegion_hill_iff h.layout color).1 hR⟩
  legal := h.exists_legal_hill
  distant _ _ hx d := h.distant hx d
  food := by rw [h.layout.ncard_food, hblobs]
  amount _ _ htile := (h.layout.tile?_eq_food_iff.1 htile).1

/-- If every region of food is as large as one blob, the shape of the food is legal. -/
theorem checkContest_eq_ok (hlayout : Layout canvas (landmarks nest rocks) blobs)
    (hregular : canvas.world.Regular)
    (hcount : ∀ R, Hex.IsRegion (canvas.world.cellsOf (.food contestFood)) R →
      R.ncard = Silhouette.blobCells) : canvas.world.checkContest = .ok () := by
  obtain ⟨regions, -, hregion, hcheck⟩ := hregular.exists_checkContest_eq
  rw [hcheck, if_pos]
  rw [List.all_map, List.all_eq_true]
  intro cells hcells
  have hR := (hregion {x | x ∈ cells}).2 ⟨cells, hcells, rfl⟩
  obtain ⟨blob, hblob, hbody⟩ := hlayout.eq_blob hR (hcount _ hR)
  obtain ⟨hstamp, hrow, hcol⟩ := hlayout.food blob hblob
  exact Stamp.hasLegalFood_ofCells hstamp hrow hcol fun x => by rw [← hbody]; rfl

end Sketch

namespace WorldMap

/-- What an attempt promises about its source: it prints a world that satisfies all contest rules
but the one about the shape of food, and this one, too, if every region of food is as large as one
blob. -/
def AlmostLegal (source : String) (world : WorldMap) : Prop :=
  source = world.text ∧ world.Regular ∧
    (parse source true = .ok world ∨ parse source true = .error .foodShape) ∧
    ((∀ R, Hex.IsRegion (world.cellsOf (.food contestFood)) R → R.ncard = Silhouette.blobCells) →
      parse source true = .ok world)

/-- The printed form of a regular world is almost legal if the rules accept food in regions as
large as one blob. -/
theorem Regular.almostLegal {world : WorldMap} (hworld : world.Regular)
    (hshape : (∀ R, Hex.IsRegion (world.cellsOf (.food contestFood)) R →
      R.ncard = Silhouette.blobCells) → world.checkContest = .ok ()) :
    AlmostLegal world.text world := by
  refine ⟨rfl, hworld, ?_, fun hcount => ?_⟩
  · obtain ⟨regions, -, -, hcheck⟩ := hworld.exists_checkContest_eq
    rw [hworld.parse_text, hcheck]
    split
    · exact Or.inl rfl
    · exact Or.inr rfl
  · rw [hworld.parse_text, hshape hcount]
    rfl

end WorldMap

/-- A source that comes of a sketch is its drawing. -/
theorem Sketch.eq_ok_of_result {outcome : Except Rng Sketch} {source : String}
    (h : (result outcome).1 = some source) :
    ∃ sketch, outcome = .ok sketch ∧ sketch.canvas.render = source := by
  cases outcome with
  | error rng => cases h
  | ok sketch => exact ⟨sketch, rfl, Option.some.inj h⟩

/-- The sample is the outcome of a first attempt, and the contest rules accept it. -/
theorem exists_sample : ∃ sketch : Sketch,
    attemptWorld Draft.sampleRng = (some sketch.canvas.render, sketch.rng) ∧
      sketch.canvas.world.WellFormed ∧ sketch.canvas.world.checkContest = .ok () ∧
      WorldMap.parse sketch.canvas.render true = .ok sketch.canvas.world := by
  obtain ⟨-, sketch, nest, rocks, blobs, -, hdraw, hland, hcorners⟩ :=
    Draft.exists_sketch Draft.foodCorners_sample
  have hblobs : blobs.length = contestBlobs := by
    rw [← List.length_map Prod.snd, hcorners]
    rfl
  have hregular := hland.regular_world hblobs
  have hcheck : sketch.canvas.world.checkContest = .ok () := by
    refine Sketch.checkContest_eq_ok hland.layout hregular fun R hR => ?_
    refine hland.layout.ncard_region ?_ hR
    rw [hcorners]
    decide
  refine ⟨sketch, ?_, hregular.wellFormed, hcheck, ?_⟩
  · rw [attemptWorld, hdraw]
    rfl
  · rw [Canvas.render_eq_text hland.layout.wellFormed hland.layout.isDry, hregular.parse_text,
      hcheck]
    rfl

/-- A completed attempt breaks no contest rule but the one about the shape of food. -/
theorem attemptWorld_almostLegal {rng rng' : Rng} {source : String}
    (h : attemptWorld rng = (some source, rng')) : ∃ world, WorldMap.AlmostLegal source world := by
  obtain ⟨sketch, hdraw, rfl⟩ := Sketch.eq_ok_of_result (congrArg Prod.fst h)
  obtain ⟨nest, rocks, blobs, hblobs, hland⟩ := Sketch.drawWorld_spec hdraw
  have hregular := hland.regular_world hblobs
  rw [Canvas.render_eq_text hland.layout.wellFormed hland.layout.isDry]
  exact ⟨_, hregular.almostLegal (Sketch.checkContest_eq_ok hland.layout hregular)⟩

/-- The attempt from which the sample comes is completed, and its source is accepted even. -/
theorem attemptWorld_almostLegal_sample : ∃ source rng,
    attemptWorld Draft.sampleRng = (some source, rng) ∧
      (∃ world, WorldMap.AlmostLegal source world) ∧
      ∃ world, WorldMap.parse source true = .ok world := by
  obtain ⟨sketch, hattempt, -, -, hparse⟩ := exists_sample
  exact ⟨_, _, hattempt, attemptWorld_almostLegal hattempt, _, hparse⟩

end Formicary
