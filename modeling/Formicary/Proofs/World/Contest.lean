import Formicary.Proofs.Region.Fill
import Formicary.Proofs.World.Text
import Mathlib.Data.Set.Card
import Mathlib.Data.List.Perm.Basic

/-!
# What the contest rules count

The checks of the contest rules are told in terms of the cells of a world: the edge
(`WorldMap.enclosed_iff`), the number of regions (`WorldMap.length_components`), the hill of a
colony (`WorldMap.soleHill_eq`) and the number of food cells (`WorldMap.countFood_eq`). A world
that satisfies all of them is refused for the shape of its food or not at all
(`WorldMap.checkContest_eq`).
-/

namespace Formicary

namespace WorldMap

variable {world : WorldMap} {target : Tile} {tile : Tile} {x : Hex} {row col : Nat}

/-! ### Cells and tiles -/

theorem index?_of_lt (hrow : row < world.height) (hcol : col < world.width) :
    world.index? ⟨row, col⟩ = some (row * world.width + col) :=
  Frame.index?_eq_some_iff.2 ⟨⟨by simp, by simpa, by simp, by simpa⟩, rfl⟩

/-- Within the world the tile in a row and column is the tile of this cell. -/
theorem tile?_eq_tileAt (hworld : world.WellFormed) (hrow : row < world.height)
    (hcol : col < world.width) : world.tile? ⟨row, col⟩ = some (world.tileAt row col) :=
  hworld.tile?_eq (index?_of_lt hrow hcol)

/-- A world is enclosed if all cells of its edge are rock. -/
theorem enclosed_iff (hworld : world.WellFormed) (hwidth : 0 < world.width)
    (hheight : 0 < world.height) :
    world.enclosed = true ↔ ∀ x ∈ world.edge, world.tile? x = some .rock := by
  simp only [enclosed, Bool.and_eq_true, List.all_eq_true, List.mem_range, decide_eq_true_eq]
  constructor
  · rintro ⟨hrows, hcols⟩ ⟨row, col⟩ ⟨⟨hrow₀, hrow, hcol₀, hcol⟩, hedge⟩
    obtain ⟨r, rfl⟩ := Int.eq_ofNat_of_zero_le hrow₀
    obtain ⟨c, rfl⟩ := Int.eq_ofNat_of_zero_le hcol₀
    simp only [Int.ofNat_lt] at hrow hcol hedge
    rw [tile?_eq_tileAt hworld hrow hcol]
    -- Each of the four sides has been checked.
    have hcases : r = 0 ∨ r = world.height - 1 ∨ c = 0 ∨ c = world.width - 1 := by omega
    rcases hcases with rfl | rfl | rfl | rfl
    · rw [(hrows c hcol).1]
    · rw [(hrows c hcol).2]
    · rw [(hcols r hrow).1]
    · rw [(hcols r hrow).2]
  · intro h
    have hrock : ∀ {row col : Nat}, row < world.height → col < world.width →
        (row = 0 ∨ row = world.height - 1 ∨ col = 0 ∨ col = world.width - 1) →
        world.tileAt row col = .rock := by
      intro row col hrow hcol hedge
      have hmem : (⟨row, col⟩ : Hex) ∈ world.edge := by
        refine ⟨⟨by simp, by simpa, by simp, by simpa⟩, ?_⟩
        simp only
        omega
      exact Option.some.inj ((tile?_eq_tileAt hworld hrow hcol).symm.trans (h _ hmem))
    refine ⟨fun col hcol => ⟨hrock hheight hcol (Or.inl rfl), ?_⟩,
      fun row hrow => ⟨hrock hrow hwidth (by simp), ?_⟩⟩
    · exact hrock (by omega) hcol (by simp)
    · exact hrock hrow (by omega) (by simp)

/-- A tile that is found on some cell belongs to the world. -/
theorem containsTile_of_tile? {p : Tile → Bool} (h : world.tile? x = some tile)
    (hp : p tile = true) : world.containsTile p = true := by
  rw [tile?] at h
  cases hi : world.index? x with
  | none =>
    rw [hi] at h
    cases h
  | some i =>
    rw [hi] at h
    obtain ⟨hlt, rfl⟩ := Array.getElem?_eq_some_iff.1 h
    exact Array.any_eq_true.2 ⟨i, hlt, hp⟩

/-- The basic rules ask for an edge of rock, a hill of each colour, and food. -/
theorem checkBasics_eq_ok_iff : world.checkBasics = .ok () ↔
    world.enclosed = true ∧ world.containsTile (· = .hill .red) = true ∧
      world.containsTile (· = .hill .black) = true ∧ world.containsTile Tile.isFood = true := by
  rw [checkBasics]
  cases world.enclosed <;> cases world.containsTile (· = .hill .red) <;>
    cases world.containsTile (· = .hill .black) <;> cases world.containsTile Tile.isFood <;>
    decide

/-! ### Regions -/

/-- As many things as a list without repetitions holds belong to it. -/
theorem ncard_setOf_mem {α : Type} {l : List α} (hl : l.Nodup) : {a | a ∈ l}.ncard = l.length := by
  classical
  rw [← List.toFinset_card_of_nodup hl, ← Set.ncard_coe_finset]
  congr 1
  ext a
  simp

/-- As many components are found as there are regions. -/
theorem length_components (hworld : world.WellFormed) {regions : List (List Hex)}
    (h : world.components target = .ok regions) :
    regions.length = {R | Hex.IsRegion (world.cellsOf target) R}.ncard := by
  rcases components_spec hworld target with ⟨regions', hok, hregion, -, hdisjoint, -⟩ |
    ⟨_, _, _, _, herror⟩
  · obtain rfl := Except.ok.inj (h.symm.trans hok)
    have hne : ∀ cells ∈ regions, ∃ x, x ∈ cells := fun cells hcells =>
      ((hregion _).2 ⟨cells, hcells, rfl⟩).nonempty
    have hnodup : (regions.map fun cells => {x | x ∈ cells}).Nodup := by
      refine List.pairwise_map.2 (hdisjoint.imp_of_mem fun hmem _ hfar hsame => ?_)
      obtain ⟨x, hx⟩ := hne _ hmem
      exact hfar x hx (hsame.subset hx)
    have hset : {R | Hex.IsRegion (world.cellsOf target) R} =
        {R | R ∈ regions.map fun cells => {x | x ∈ cells}} := by
      ext R
      simp only [Set.mem_ofPred_eq, hregion, List.mem_map, eq_comm (a := R)]
    rw [hset, ncard_setOf_mem hnodup, List.length_map]
  · rw [h] at herror
    cases herror

/-- If no cell of a kind is next to a cell that is forbidden there, the components are found. -/
theorem components_eq_ok (hworld : world.WellFormed)
    (hallowed : ∀ x ∈ world.cellsOf target, ∀ d : Direction, d.step x ∉ world.forbidden target) :
    ∃ regions, world.components target = .ok regions ∧
      ∀ R, Hex.IsRegion (world.cellsOf target) R ↔ ∃ cells ∈ regions, R = {x | x ∈ cells} := by
  rcases components_spec hworld target with ⟨regions, hok, hregion, -⟩ | ⟨x, hx, d, hforbidden, -⟩
  · exact ⟨regions, hok, hregion⟩
  · exact absurd hforbidden (hallowed x hx d)

/-- The hill of a colony is its only region. -/
theorem soleHill_eq (hworld : world.WellFormed) {color : Color} {hill : Set Hex}
    (hallowed : ∀ x ∈ world.cellsOf (.hill color), ∀ d : Direction,
      d.step x ∉ world.forbidden (.hill color))
    (hregion : ∀ R, Hex.IsRegion (world.cellsOf (.hill color)) R ↔ R = hill) :
    ∃ cells : List Hex, (∀ x, x ∈ cells ↔ x ∈ hill) ∧ world.soleHill color =
      .ok (Silhouette.ofCells (cells.map fun h => (h.row.toNat, h.col.toNat))) := by
  obtain ⟨regions, hok, hregions⟩ := components_eq_ok hworld hallowed
  have hlength : regions.length = 1 := by
    rw [length_components hworld hok]
    simp only [hregion]
    exact Set.ncard_singleton hill
  obtain ⟨cells, rfl⟩ := List.length_eq_one_iff.1 hlength
  have hcells : hill = {x | x ∈ cells} := by simpa using (hregions hill).1 ((hregion hill).2 rfl)
  refine ⟨cells, fun x => by rw [hcells]; rfl, ?_⟩
  rw [soleHill, regions, hok]
  rfl

/-! ### Food -/

/-- If all food is of the amount that the rules ask for, the cells with food are counted. -/
theorem countFood_eq {count : Nat} {l : List Nat}
    (h : ∀ i ∈ l, ∀ amount, world.tiles.getD i .rock = .food amount → amount = contestFood) :
    world.countFood count l =
      .ok (count + l.countP fun i => (world.tiles.getD i .rock).isFood) := by
  induction l generalizing count with
  | nil => rfl
  | cons i l ih =>
    obtain ⟨hi, hl⟩ := List.forall_mem_cons.1 h
    rw [countFood, List.countP_cons]
    cases htile : world.tiles.getD i .rock with
    | food amount =>
      rw [htile] at hi
      simp only [hi amount rfl, if_true, ih hl, Tile.isFood]
      rw [Nat.add_assoc, Nat.add_comm 1]
    | rock | clear | hill => simp [ih hl, Tile.isFood]

/-- The cells with food are the cells of that kind. -/
theorem countP_isFood (hworld : world.WellFormed) (amount : Nat) :
    ((List.range (world.height * world.width)).countP fun i =>
      (world.tiles.getD i .rock).isFood) = (world.cellsOf (.food amount)).ncard := by
  have hkind : ∀ tile : Tile, tile.sameKind (.food amount) = tile.isFood := by
    intro tile
    cases tile <;> rfl
  have hinj : ∀ i < world.height * world.width, ∀ j < world.height * world.width,
      world.hex i = world.hex j → i = j := by
    intro i hi j hj hsame
    have hindex := world.index?_hex hi
    rw [hsame, world.index?_hex hj] at hindex
    exact (Option.some.inj hindex).symm
  -- Different numbers belong to different cells, so counting numbers counts cells.
  have hnodup : (((List.range (world.height * world.width)).filter fun i =>
      (world.tiles.getD i .rock).isFood).map world.hex).Nodup := by
    refine List.Nodup.map_on (fun i hi j hj => ?_) (List.nodup_range.filter _)
    rw [List.mem_filter, List.mem_range] at hi hj
    exact hinj i hi.1 j hj.1
  rw [List.countP_eq_length_filter, ← List.length_map, ← ncard_setOf_mem hnodup]
  congr 1
  ext x
  simp only [Set.mem_ofPred_eq, List.mem_map, List.mem_filter, List.mem_range]
  constructor
  · rintro ⟨i, ⟨hi, hfood⟩, rfl⟩
    rw [mem_cellsOf_iff hworld (world.index?_hex hi), hkind]
    exact hfood
  · intro hx
    obtain ⟨i, hi⟩ := exists_index?_of_mem_cellsOf hx
    rw [mem_cellsOf_iff hworld hi, hkind] at hx
    exact ⟨i, ⟨Frame.lt_of_index? hi, hx⟩, Frame.hex_of_index? hi⟩

/-! ### The contest rules -/

/-- If there are hills of the legal shape, as many rocks as the rules ask for and as much food, all
that can be wrong with a world is the shape of its food. -/
theorem checkContest_eq {red black : Silhouette} {rocks : List (List Hex)} {blobs : List Silhouette}
    (hred : world.soleHill .red = .ok red) (hblack : world.soleHill .black = .ok black)
    (hredShape : red.isLegalHill = true) (hblackShape : black.isLegalHill = true)
    (hrocks : world.components .rock = .ok rocks) (hrockCount : rocks.length = contestRocks)
    (hfood : world.countFood 0 (List.range (world.height * world.width)) =
      .ok (contestBlobs * Silhouette.blobCells))
    (hblobs : world.regions (.food contestFood) = .ok blobs) :
    world.checkContest =
      if blobs.all Silhouette.hasLegalFood = true then .ok () else .error .foodShape := by
  rw [checkContest, hred, hblack, hrocks, hfood, hblobs]
  have hbind : ∀ {α β : Type} (a : α) (f : α → Except WorldError β), (Except.ok a >>= f) = f a :=
    fun _ _ => rfl
  simp only [hbind, hredShape, hblackShape, hrockCount]
  cases blobs.all Silhouette.hasLegalFood <;> rfl

/-- A world that satisfies the contest rules, but for the shapes of its food blobs. -/
structure Regular (world : WorldMap) : Prop where
  /-- There is a tile for every cell. -/
  wellFormed : world.WellFormed
  /-- The world has the size of a contest world. -/
  frame_eq : world.toFrame = ⟨contestSize, contestSize⟩
  /-- The edge is rock. -/
  edge : ∀ x ∈ world.edge, world.tile? x = some .rock
  /-- There are as many rocks as the rules ask for. -/
  rocks : {R | Hex.IsRegion (world.cellsOf .rock) R}.ncard = contestRocks
  /-- Every colony has one hill. -/
  hill : ∀ color, ∃! R, Hex.IsRegion (world.cellsOf (.hill color)) R
  /-- The hill of a colony has the legal shape. -/
  legal : ∀ color, ∃ hill, world.soleHill color = .ok hill ∧ hill.isLegalHill = true
  /-- Hills touch neither rock nor the hill of another colony. -/
  distant : ∀ color, ∀ x ∈ world.cellsOf (.hill color), ∀ d : Direction,
    world.tile? (d.step x) ≠ some .rock ∧
      ∀ other ≠ color, world.tile? (d.step x) ≠ some (.hill other)
  /-- There is as much food as the rules ask for. -/
  food : (world.cellsOf (.food contestFood)).ncard = contestBlobs * Silhouette.blobCells
  /-- All food is of the amount that the rules ask for. -/
  amount : ∀ x amount, world.tile? x = some (.food amount) → amount = contestFood

/-- A tile of the world lies on some cell. -/
theorem exists_tile?_of_mem (hworld : world.WellFormed) (htile : tile ∈ world.tiles) :
    ∃ x, world.tile? x = some tile := by
  obtain ⟨i, hlt, rfl⟩ := Array.mem_iff_getElem.1 htile
  rw [hworld.size_eq] at hlt
  refine ⟨world.hex i, ?_⟩
  rw [hworld.tile?_eq (world.index?_hex hlt)]
  simp [*]

theorem Regular.checkBasics_eq (hworld : world.Regular) : world.checkBasics = .ok () := by
  have hpos : 0 < contestSize := by decide
  have hwidth : world.width = contestSize := congrArg Frame.width hworld.frame_eq
  have hheight : world.height = contestSize := congrArg Frame.height hworld.frame_eq
  have hhill : ∀ color, world.containsTile (· = .hill color) = true := by
    intro color
    obtain ⟨R, hR, -⟩ := hworld.hill color
    obtain ⟨x, hx⟩ := hR.nonempty
    obtain ⟨tile, htile, hkind⟩ := hR.subset hx
    refine containsTile_of_tile? htile ?_
    cases tile <;> simp_all [Tile.sameKind]
  have hfood : world.containsTile Tile.isFood = true := by
    have hne : (world.cellsOf (.food contestFood)).Nonempty := by
      refine Set.nonempty_of_ncard_ne_zero ?_
      rw [hworld.food]
      decide
    obtain ⟨x, tile, htile, hkind⟩ := hne
    refine containsTile_of_tile? htile ?_
    cases tile <;> simp_all [Tile.sameKind, Tile.isFood]
  rw [checkBasics_eq_ok_iff, enclosed_iff hworld.wellFormed (hwidth ▸ hpos) (hheight ▸ hpos)]
  exact ⟨hworld.edge, hhill .red, hhill .black, hfood⟩

/-- All that can be wrong with a regular world is the shape of its food. -/
theorem Regular.exists_checkContest_eq (hworld : world.Regular) :
    ∃ regions, world.components (.food contestFood) = .ok regions ∧
      (∀ R, Hex.IsRegion (world.cellsOf (.food contestFood)) R ↔
        ∃ cells ∈ regions, R = {x | x ∈ cells}) ∧
      world.checkContest =
        if (regions.map fun cells => Silhouette.ofCells (cells.map fun h =>
            (h.row.toNat, h.col.toNat))).all Silhouette.hasLegalFood = true
        then .ok () else .error .foodShape := by
  obtain ⟨red, hred, hredShape⟩ := hworld.legal .red
  obtain ⟨black, hblack, hblackShape⟩ := hworld.legal .black
  -- Next to rock and food nothing is forbidden.
  have hnone : ∀ target : Tile, target = .rock ∨ target = .food contestFood →
      ∀ x ∈ world.cellsOf target, ∀ d : Direction, d.step x ∉ world.forbidden target := by
    rintro target htarget x - d ⟨tile, -, hforbids⟩
    rcases htarget with rfl | rfl <;> simp [Tile.forbids] at hforbids
  obtain ⟨rocks, hrocks, -⟩ := components_eq_ok hworld.wellFormed (hnone .rock (Or.inl rfl))
  have hrockCount : rocks.length = contestRocks :=
    (length_components hworld.wellFormed hrocks).trans hworld.rocks
  obtain ⟨regions, hregions, hregion⟩ :=
    components_eq_ok hworld.wellFormed (hnone (.food contestFood) (Or.inr rfl))
  have hfood : world.countFood 0 (List.range (world.height * world.width)) =
      .ok (contestBlobs * Silhouette.blobCells) := by
    rw [countFood_eq, countP_isFood hworld.wellFormed contestFood, hworld.food, Nat.zero_add]
    intro i hi amount htile
    have hindex := world.index?_hex (List.mem_range.1 hi)
    exact hworld.amount (world.hex i) amount
      ((hworld.wellFormed.tile?_eq hindex).trans (congrArg some htile))
  refine ⟨regions, hregions, hregion, ?_⟩
  refine checkContest_eq hred hblack hredShape hblackShape hrocks hrockCount hfood ?_
  rw [WorldMap.regions, hregions]
  rfl

/-- The printed form of a regular world is read back and refused for the shape of its food only. -/
theorem Regular.parse_text (hworld : world.Regular) :
    parse world.text true = world.checkContest.map fun _ => world := by
  have hwidth : world.width = contestSize := congrArg Frame.width hworld.frame_eq
  have hheight : world.height = contestSize := congrArg Frame.height hworld.frame_eq
  have hprintable : ∀ t ∈ world.tiles, t.Printable := by
    intro t ht
    obtain ⟨x, hx⟩ := exists_tile?_of_mem hworld.wellFormed ht
    cases t with
    | food amount =>
      rw [hworld.amount x amount hx]
      exact ⟨by decide, by decide⟩
    | rock | clear | hill => trivial
  have hlines : minLines true ≤ world.height + 2 := by
    rw [hheight]
    decide
  rw [WorldMap.parse_text hworld.wellFormed (hwidth ▸ by decide) (hheight ▸ by decide)
    (hwidth ▸ by decide) (hheight ▸ by decide) hprintable true hlines
    fun _ => ⟨hwidth, hheight⟩, hworld.checkBasics_eq]
  rfl

end WorldMap

end Formicary
