import Formicary.Proofs.Region.Depiction
import Formicary.Proofs.World.Contest

/-!
# The regions of a world

A world is searched for the regions of a kind row by row. What comes out is one picture for every
region, in the order in which the regions begin on the rows of the world, unless the kind is a
hill that lies next to rock or to the other hill; then such a neighbour is reported
(`WorldMap.regions_spec`). A hill that keeps its distance from both is called secluded
(`WorldMap.Secluded`).
-/

namespace Formicary

namespace Hex

/-- A cell comes before another one when a grid is read row by row. -/
def Precedes (a b : Hex) : Prop := a.row < b.row ∨ a.row = b.row ∧ a.col < b.col

/-- The first cell of a set comes before all cells of another one. -/
def BeginsBefore (S T : Set Hex) : Prop := ∃ a ∈ S, ∀ b ∈ T, a.Precedes b

/-- A list holds the regions of a set, each once, in the order of their first cells. -/
structure RegionsInOrder (S : Set Hex) (regions : List (Set Hex)) : Prop where
  /-- The list holds the regions and nothing else. -/
  mem_iff : ∀ R, R ∈ regions ↔ IsRegion S R
  /-- No region comes twice. -/
  nodup : regions.Nodup
  /-- The regions come in the order of their first cells. -/
  ordered : regions.Pairwise BeginsBefore

theorem not_precedes_self (a : Hex) : ¬a.Precedes a := by
  unfold Precedes
  omega

end Hex

namespace Frame

variable {frame : Frame} {a b : Hex} {i j : Nat}

/-- A number has no cell but one with that number. -/
theorem eq_of_index?_hex (h : frame.index? (frame.hex i) = some j) : j = i := by
  obtain ⟨-, rfl⟩ := index?_eq_some_iff.1 h
  rw [hex, Int.toNat_natCast, Int.toNat_natCast, Nat.mul_comm, Nat.div_add_mod]

/-- Cells are numbered in the order in which they are read. -/
theorem precedes_of_lt (ha : frame.index? a = some i) (hb : frame.index? b = some j)
    (hij : i < j) : a.Precedes b := by
  obtain ⟨⟨harow, -, hacol, -⟩, rfl⟩ := index?_eq_some_iff.1 ha
  obtain ⟨⟨hbrow, -, hbcol, hbwidth⟩, rfl⟩ := index?_eq_some_iff.1 hb
  by_contra hnot
  unfold Hex.Precedes at hnot
  -- Were the second cell on an earlier row, its number would be less by the rest of that row.
  rcases Int.lt_trichotomy a.row b.row with hlt | heq | hgt
  · omega
  · rw [heq] at hij
    omega
  · have hle : (b.row.toNat + 1) * frame.width ≤ a.row.toNat * frame.width :=
      Nat.mul_le_mul_right _ (by omega)
    rw [Nat.succ_mul] at hle
    omega

theorem lt_of_precedes (ha : frame.index? a = some i) (hb : frame.index? b = some j)
    (h : a.Precedes b) : i < j := by
  rcases Nat.lt_trichotomy i j with hlt | rfl | hgt
  · exact hlt
  · rw [← hex_of_index? ha, ← hex_of_index? hb] at h
    exact absurd h (Hex.not_precedes_self _)
  · have hback := precedes_of_lt hb ha hgt
    unfold Hex.Precedes at h hback
    omega

end Frame

namespace WorldMap

variable {world : WorldMap} {target : Tile} {color : Color} {x y : Hex}

/-- No cell of a colony's hill is next to rock or to the hill of the other colony. -/
def Secluded (world : WorldMap) (color : Color) : Prop :=
  ∀ x y, world.tile? x = some (.hill color) → x.Adjacent y →
    world.tile? y ≠ some .rock ∧ world.tile? y ≠ some (.hill color.other)

/-! ### Hills -/

theorem mem_cellsOf_hill_iff :
    x ∈ world.cellsOf (.hill color) ↔ world.tile? x = some (.hill color) := by
  have hkind : ∀ tile : Tile, tile.sameKind (.hill color) = true ↔ tile = .hill color := by
    intro tile
    cases tile <;> simp [Tile.sameKind]
  simp only [cellsOf, Set.mem_ofPred_eq, hkind, exists_eq_right]

theorem mem_forbidden_hill_iff : y ∈ world.forbidden (.hill color) ↔
    world.tile? y = some .rock ∨ world.tile? y = some (.hill color.other) := by
  have hforbids : ∀ tile : Tile, (Tile.hill color).forbids tile = true ↔
      tile = .rock ∨ tile = .hill color.other := by
    intro tile
    cases tile with
    | hill other => cases color <;> cases other <;> decide
    | rock | clear | food => simp [Tile.forbids]
  simp only [forbidden, Set.mem_ofPred_eq, hforbids, and_or_left, exists_or, exists_eq_right]

/-- A hill is secluded if none of its neighbours is forbidden. -/
theorem secluded_iff : world.Secluded color ↔
    ∀ x ∈ world.cellsOf (.hill color), ∀ d : Direction,
      d.step x ∉ world.forbidden (.hill color) := by
  simp only [mem_cellsOf_hill_iff, mem_forbidden_hill_iff, not_or]
  constructor
  · exact fun h x hx d => h x _ hx (Hex.adjacent_step d x)
  · rintro h x _ hx ⟨d, rfl⟩
    exact h x hx d

/-- Only hills forbid anything, so nothing is forbidden next to a kind unless it is a hill that is
not secluded. -/
theorem not_mem_forbidden (target : Tile)
    (h : ∀ color, target = .hill color → world.Secluded color) :
    ∀ x ∈ world.cellsOf target, ∀ d : Direction, d.step x ∉ world.forbidden target := by
  intro x hx d
  cases target with
  | hill color => exact secluded_iff.1 (h color rfl) x hx d
  | rock | clear | food =>
    rintro ⟨tile, -, hforbids⟩
    simp [Tile.forbids] at hforbids

/-! ### Pictures of regions -/

/-- The picture of a region, from a list of its cells. -/
def picture (cells : List Hex) : Silhouette :=
  Silhouette.ofCells (cells.map fun h => (h.row.toNat, h.col.toNat))

/-- A cell with a tile lies in the world. -/
theorem contains_of_tile? {tile : Tile} (h : world.tile? x = some tile) : world.Contains x := by
  cases hi : world.index? x with
  | none => simp [tile?_eq_none hi] at h
  | some i => exact (Frame.index?_eq_some_iff.1 hi).1

/-- A cell with a tile has natural numbers for its row and column. -/
theorem natural_of_tile? {tile : Tile} (h : world.tile? x = some tile) :
    (⟨x.row.toNat, x.col.toNat⟩ : Hex) = x := by
  obtain ⟨hrow, -, hcol, -⟩ := contains_of_tile? h
  rw [Int.toNat_of_nonneg hrow, Int.toNat_of_nonneg hcol]

/-- The picture of cells of a world shows these cells. -/
theorem depicts_picture {cells : List Hex} (hne : cells ≠ [])
    (hcells : ∀ x ∈ cells, x ∈ world.cellsOf target) : (picture cells).Depicts {x | x ∈ cells} := by
  have hset : Silhouette.cellsAt (cells.map fun h => (h.row.toNat, h.col.toNat)) =
      {x | x ∈ cells} := by
    ext x
    constructor
    · rintro ⟨_, hcell, rfl⟩
      obtain ⟨y, hy, rfl⟩ := List.mem_map.1 hcell
      obtain ⟨tile, htile, -⟩ := hcells y hy
      exact (natural_of_tile? htile).symm ▸ hy
    · intro hx
      obtain ⟨tile, htile, -⟩ := hcells x hx
      exact ⟨_, List.mem_map_of_mem hx, natural_of_tile? htile⟩
  rw [← hset]
  exact Silhouette.depicts_ofCells (by simpa using hne)

/-- A picture has as many cells as the set that it shows. -/
theorem cellCount_eq_ncard {s : Silhouette} {S : Set Hex} (h : s.Depicts S) :
    s.cellCount = S.ncard := by
  obtain ⟨l, hnodup, hmem, hlength⟩ := h.exists_list
  rw [← hlength, ← ncard_setOf_mem hnodup]
  congr 1
  ext x
  exact hmem x

/-- The pictures of parts that do not overlap have as many cells together as the whole. -/
theorem sum_cellCount {S : Set Hex} {parts : List (List Hex)}
    (hunion : ∀ x, x ∈ S ↔ ∃ cells ∈ parts, x ∈ cells) (hnodup : ∀ cells ∈ parts, cells.Nodup)
    (hdisjoint : parts.Pairwise fun cells cells' => ∀ x ∈ cells, x ∉ cells')
    (hdepicts : ∀ cells ∈ parts, (picture cells).Depicts {x | x ∈ cells}) :
    ((parts.map picture).map Silhouette.cellCount).sum = S.ncard := by
  have hlengths : (parts.map picture).map Silhouette.cellCount = parts.map List.length := by
    rw [List.map_map]
    refine List.map_congr_left fun cells hcells => ?_
    rw [Function.comp_apply, cellCount_eq_ncard (hdepicts cells hcells),
      ncard_setOf_mem (hnodup cells hcells)]
  -- Put one after the other, the parts list the cells of the whole without repetition.
  have hflat : parts.flatten.Nodup :=
    List.nodup_flatten.2 ⟨hnodup, hdisjoint.imp fun hfar x hx hx' => hfar x hx hx'⟩
  rw [hlengths, ← List.length_flatten, ← ncard_setOf_mem hflat]
  congr 1
  ext x
  rw [Set.mem_ofPred_eq, List.mem_flatten]
  exact (hunion x).symm

/-- Lists of the regions of a set cover the set. -/
theorem mem_iff_of_isRegion_iff {S : Set Hex} {parts : List (List Hex)}
    (hregion : ∀ R, Hex.IsRegion S R ↔ ∃ cells ∈ parts, R = {x | x ∈ cells}) (x : Hex) :
    x ∈ S ↔ ∃ cells ∈ parts, x ∈ cells := by
  constructor
  · intro hx
    obtain ⟨cells, hcells, hR⟩ := (hregion _).1 ⟨x, hx, rfl⟩
    have hself : x ∈ {y | Hex.Joined S x y} := .refl
    rw [hR] at hself
    exact ⟨cells, hcells, hself⟩
  · rintro ⟨cells, hcells, hx⟩
    exact ((hregion _).2 ⟨cells, hcells, rfl⟩).subset hx

/-- A list of cells with a number below the numbers of all other cells begins before these. -/
theorem beginsBefore_of_index {earlier later : List Hex} {i : Nat}
    (hearlier : ∀ x ∈ earlier, x ∈ world.cellsOf target)
    (hlater : ∀ x ∈ later, x ∈ world.cellsOf target) (hi : world.hex i ∈ earlier)
    (hlt : ∀ x ∈ later, ∀ j, world.index? x = some j → i < j) :
    Hex.BeginsBefore {x | x ∈ earlier} {x | x ∈ later} := by
  refine ⟨world.hex i, hi, fun y hy => ?_⟩
  obtain ⟨i', hi'⟩ := exists_index?_of_mem_cellsOf (hearlier _ hi)
  obtain ⟨j, hj⟩ := exists_index?_of_mem_cellsOf (hlater y hy)
  obtain rfl := Frame.eq_of_index?_hex hi'
  exact Frame.precedes_of_lt hi' hj (hlt y hy j hj)

/-- If nothing that is forbidden is next to a kind, the pictures of its regions are found. -/
theorem exists_regions (hworld : world.WellFormed) (target : Tile)
    (hallowed : ∀ color, target = .hill color → world.Secluded color) :
    ∃ parts boxes, world.regions target = .ok boxes ∧
      Hex.RegionsInOrder (world.cellsOf target) parts ∧
      List.Forall₂ Silhouette.Depicts boxes parts ∧
      (boxes.map Silhouette.cellCount).sum = (world.cellsOf target).ncard := by
  rcases components_spec hworld target with
    ⟨components, hok, hregion, hnodup, hdisjoint, hordered, -⟩ | ⟨x, hx, d, hforbidden, -⟩
  -- The pictures are those of the components, in the same order.
  · have hsub : ∀ cells ∈ components, ∀ x ∈ cells, x ∈ world.cellsOf target := fun cells hcells =>
      ((hregion _).2 ⟨cells, hcells, rfl⟩).subset
    have hdepicts : ∀ cells ∈ components, (picture cells).Depicts {x | x ∈ cells} := by
      intro cells hcells
      obtain ⟨x, hx⟩ := ((hregion _).2 ⟨cells, hcells, rfl⟩).nonempty
      exact depicts_picture (List.ne_nil_of_mem hx) (hsub cells hcells)
    have hbegins : (components.map fun cells => {x | x ∈ cells}).Pairwise Hex.BeginsBefore := by
      refine List.pairwise_map.2 (hordered.imp_of_mem fun hearlier hlater hfirst => ?_)
      obtain ⟨i, hi, hlt⟩ := hfirst
      exact beginsBefore_of_index (hsub _ hearlier) (hsub _ hlater) hi hlt
    refine ⟨components.map fun cells => {x | x ∈ cells}, components.map picture,
      by rw [regions, hok]; rfl, ⟨fun R => ?_, ?_, hbegins⟩, ?_,
      sum_cellCount (mem_iff_of_isRegion_iff hregion) hnodup hdisjoint hdepicts⟩
    · simp only [hregion, List.mem_map, eq_comm (a := R)]
    · -- A region that came twice would begin before itself.
      refine hbegins.imp fun {R R'} hbefore hsame => ?_
      obtain ⟨a, ha, hall⟩ := hbefore
      exact Hex.not_precedes_self a (hall a (hsame ▸ ha))
    · rw [List.forall₂_map_left_iff, List.forall₂_map_right_iff, List.forall₂_same]
      exact hdepicts
  · exact absurd hforbidden (not_mem_forbidden target hallowed x hx d)

/-- If a hill is not secluded, a cell that it touches and should not touch is reported. -/
theorem regions_eq_error (hworld : world.WellFormed) (htouching : ¬world.Secluded color) :
    ∃ x, world.tile? x = some (.hill color) ∧ ∃ row col : Nat, x.Adjacent ⟨row, col⟩ ∧
      (world.tile? ⟨row, col⟩ = some .rock ∨ world.tile? ⟨row, col⟩ = some (.hill color.other)) ∧
      world.regions (.hill color) = .error (.hillAdjacency row col) := by
  rcases components_spec hworld (.hill color) with ⟨_, _, _, _, _, _, hallowed⟩ |
    ⟨x, hx, d, hforbidden, herror⟩
  · exact absurd (secluded_iff.2 hallowed) htouching
  · -- The cell reported lies in the world, so its row and column are natural numbers.
    obtain ⟨tile, htile, -⟩ := id hforbidden
    have hnatural := natural_of_tile? htile
    refine ⟨x, mem_cellsOf_hill_iff.1 hx, (d.step x).row.toNat, (d.step x).col.toNat, ?_, ?_, ?_⟩
    · rw [hnatural]
      exact Hex.adjacent_step d x
    · rw [hnatural]
      exact mem_forbidden_hill_iff.1 hforbidden
    · rw [regions, herror]
      rfl

/-- The regions of a kind are found, each as its picture, in the order of their first cells; or
the kind is a hill that is next to something that it should not touch, and that is reported. -/
theorem regions_spec (hworld : world.WellFormed) (target : Tile) :
    ((∀ color, target = .hill color → world.Secluded color) →
      ∃ parts boxes, world.regions target = .ok boxes ∧
        Hex.RegionsInOrder (world.cellsOf target) parts ∧
        List.Forall₂ Silhouette.Depicts boxes parts ∧
        (boxes.map Silhouette.cellCount).sum = (world.cellsOf target).ncard) ∧
    ∀ color, target = .hill color → ¬world.Secluded color →
      ∃ x, world.tile? x = some (.hill color) ∧ ∃ row col : Nat, x.Adjacent ⟨row, col⟩ ∧
        (world.tile? ⟨row, col⟩ = some .rock ∨
          world.tile? ⟨row, col⟩ = some (.hill color.other)) ∧
        world.regions target = .error (.hillAdjacency row col) := by
  refine ⟨exists_regions hworld target, ?_⟩
  rintro color rfl htouching
  exact regions_eq_error hworld htouching

/-- A world that is not walled in: a hill between two rocks, and food on either side of it. -/
def outcrop : WorldMap where
  width := 4
  height := 3
  tiles := #[.rock, .rock, .food 2, .food 7, .hill .red, .food 1, .clear, .food 9, .rock, .food 3,
    .rock, .clear]

theorem not_secluded_outcrop : ¬outcrop.Secluded .red := by
  intro hsecluded
  -- To the north-west of the hill there is rock.
  have hadjacent : (⟨1, 0⟩ : Hex).Adjacent ⟨0, 0⟩ := ⟨.northWest, rfl⟩
  exact (hsecluded ⟨1, 0⟩ ⟨0, 0⟩ rfl hadjacent).1 rfl

/-- In the small world the regions of food are found, whatever the amount that is asked for, and
the search for the hill runs into rock. -/
theorem regions_outcrop :
    outcrop.WellFormed ∧
      (∃ parts boxes, outcrop.regions (.food 1) = .ok boxes ∧
        Hex.RegionsInOrder (outcrop.cellsOf (.food 1)) parts ∧
        List.Forall₂ Silhouette.Depicts boxes parts ∧
        (boxes.map Silhouette.cellCount).sum = (outcrop.cellsOf (.food 1)).ncard) ∧
      ¬outcrop.Secluded .red ∧
      ∃ x, outcrop.tile? x = some (.hill .red) ∧ ∃ row col : Nat, x.Adjacent ⟨row, col⟩ ∧
        (outcrop.tile? ⟨row, col⟩ = some .rock ∨ outcrop.tile? ⟨row, col⟩ = some (.hill .black)) ∧
        outcrop.regions (.hill .red) = .error (.hillAdjacency row col) := by
  have hworld : outcrop.WellFormed := rfl
  obtain ⟨hfood, -⟩ := regions_spec hworld (.food 1)
  obtain ⟨-, hhill⟩ := regions_spec hworld (.hill .red)
  exact ⟨hworld, hfood (fun _ h => by cases h), not_secluded_outcrop,
    hhill .red rfl not_secluded_outcrop⟩

end WorldMap

end Formicary
