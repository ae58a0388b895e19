import Formicary.Proofs.Region.Hexagon

/-!
# Distance

The distance of two cells is read off their slanted coordinates (`Hex.distance`); it is the least
number of steps that lead from one to the other (`Hex.isLeast_distance`). A hexagon is the set of
all cells up to some distance from its centre (`Hex.ball_eq`), and to walk the same way from all of
its cells is to walk from its centre (`Hex.image_walk_ball`).

So the formula for the lines of a legal hill, which looks at the parity of the first row, says
something that does not depend on where the cells lie: whether they are all cells up to distance
six from one of them (`Silhouette.isLegalHill_iff_distance`).
-/

namespace Formicary

namespace Hex

/-- The distance of two cells. A step changes neither slanted coordinate by more than one, nor their
sum; and from one cell towards the other, some step brings the largest of the three down. -/
def distance (a b : Hex) : Nat :=
  let v := b.slant - a.slant
  max (max v.1.natAbs v.2.natAbs) (v.1 + v.2).natAbs

variable {a b : Hex} {n : Nat}

/-- A distance is a bound on the length of a vector. -/
theorem distance_le_iff : a.distance b ≤ n ↔ Short n (b.slant - a.slant) := by
  simp only [distance, Short, Nat.max_le, and_assoc]

/-- No walk is shorter than the distance, and some walk is as short. -/
theorem isLeast_distance (a b : Hex) :
    IsLeast {n | ∃ ds : List Direction, ds.length = n ∧ a.walk ds = b} (a.distance b) := by
  have hleast : ∀ ds : List Direction, a.walk ds = b → a.distance b ≤ ds.length := by
    rintro ds rfl
    exact distance_le_iff.2 (mem_ball_iff.1 ⟨ds, Nat.le_refl _, rfl⟩)
  obtain ⟨ds, hlength, hwalk⟩ := mem_ball_iff.2 (distance_le_iff.1 (Nat.le_refl (a.distance b)))
  refine ⟨⟨ds, Nat.le_antisymm hlength (hleast ds hwalk), hwalk⟩, ?_⟩
  rintro n ⟨ds', rfl, hwalk'⟩
  exact hleast ds' hwalk'

/-- A hexagon is the set of all cells up to some distance from its centre. -/
theorem ball_eq (centre : Hex) (n : Nat) : ball centre n = {h | centre.distance h ≤ n} := by
  ext h
  rw [mem_ball_iff, Set.mem_ofPred_eq, distance_le_iff]

/-! ### Translations -/

/-- The same walk moves all cells by the same vector. -/
theorem walk_eq_move (ds : List Direction) (h : Hex) :
    h.walk ds = h.move (ds.map Direction.vector).sum := by
  -- In slanted coordinates a step adds the same vector wherever it starts.
  apply slant_injective
  induction ds generalizing h with
  | nil =>
    rw [slant_move]
    exact (add_zero _).symm
  | cons d ds ih =>
    calc ((d.step h).walk ds).slant
        = (d.step h).slant + (ds.map Direction.vector).sum := by rw [ih, slant_move]
      _ = h.slant + (d.vector + (ds.map Direction.vector).sum) := by
          rw [Direction.slant_step, add_assoc]
      _ = (h.move ((d :: ds).map Direction.vector).sum).slant := by
          rw [slant_move, List.map_cons, List.sum_cons]

/-- A move by the opposite vector undoes a move. -/
theorem move_move_neg (h : Hex) (v : Int × Int) : (h.move (-v)).move v = h := by
  apply slant_injective
  rw [slant_move, slant_move, neg_add_cancel_right]

/-- Two moves can be exchanged. -/
theorem move_move_comm (h : Hex) (v w : Int × Int) : (h.move v).move w = (h.move w).move v := by
  apply slant_injective
  rw [slant_move, slant_move, slant_move, slant_move, add_right_comm]

/-- A vector moves different cells to different cells. -/
theorem injective_move (v : Int × Int) : Function.Injective fun h : Hex => h.move v := by
  intro h h' hmove
  apply slant_injective
  have hslant := congrArg slant hmove
  rw [slant_move, slant_move] at hslant
  exact add_right_cancel hslant

/-- Moving all cells of a hexagon moves its centre. -/
theorem image_move_ball (centre : Hex) (n : Nat) (v : Int × Int) :
    (fun h : Hex => h.move v) '' ball centre n = ball (centre.move v) n := by
  have hmem : ∀ h : Hex, h.move v ∈ ball (centre.move v) n ↔ h ∈ ball centre n := by
    intro h
    rw [mem_ball_iff, mem_ball_iff, slant_move, slant_move, add_sub_add_right_eq_sub]
  ext h
  constructor
  · rintro ⟨h, hh, rfl⟩
    exact (hmem h).2 hh
  · intro hh
    -- Every cell is where a move by `v` leads from some cell.
    rw [← move_move_neg h v] at hh ⊢
    exact ⟨_, (hmem _).1 hh, rfl⟩

/-- To walk the same way from all cells of a hexagon is to walk from its centre. -/
theorem image_walk_ball (centre : Hex) (n : Nat) (ds : List Direction) :
    (fun h : Hex => h.walk ds) '' ball centre n = ball (centre.walk ds) n := by
  simp only [walk_eq_move ds]
  exact image_move_ball centre n _

/-- Some cells make up a hexagon if and only if they do after all of them have walked the same
way. -/
theorem exists_ball_image_walk_iff {S : Set Hex} (ds : List Direction) :
    (∃ centre, (fun h : Hex => h.walk ds) '' S = ball centre n) ↔ ∃ centre, S = ball centre n := by
  constructor
  · rintro ⟨centre, hball⟩
    simp only [walk_eq_move ds] at hball
    -- The cells came from around the cell from which the same walk leads to the centre.
    refine ⟨centre.move (-(ds.map Direction.vector).sum), ?_⟩
    apply (injective_move (ds.map Direction.vector).sum).image_injective
    rw [image_move_ball, move_move_neg]
    exact hball
  · rintro ⟨centre, rfl⟩
    exact ⟨_, image_walk_ball ..⟩

end Hex

namespace Silhouette

/-- The silhouette of a list of cells is recognised as a legal hill if these cells make up a hexagon
of radius six. -/
theorem isLegalHill_ofCells_iff_ball {cells : List (Nat × Nat)} :
    (ofCells cells).isLegalHill = true ↔ ∃ centre, cellsAt cells = Hex.ball centre 6 := by
  rcases eq_or_ne cells [] with rfl | hne
  · -- There is no hill without a cell, and every hexagon has its centre.
    refine iff_of_false (by decide) ?_
    rintro ⟨centre, hball⟩
    have hcentre : centre ∈ cellsAt [] := hball ▸ ⟨[], Nat.zero_le 6, rfl⟩
    simp [cellsAt] at hcentre
  · exact (depicts_ofCells hne).isLegalHill_iff

/-- The cells of a hexagon of radius six, line by line, with its first row and column. -/
def hexagonCells (top left : Nat) : List (Nat × Nat) :=
  (shown (hillRows (top % 2 == 1)) hillSize).map fun place => (top + place.1, left + place.2)

theorem cellsAt_hexagonCells (top left : Nat) :
    cellsAt (hexagonCells top left) = Hex.ball ⟨top + 6, left + 6⟩ 6 := by
  ext x
  rw [mem_ball_iff_has]
  simp only [cellsAt, hexagonCells, List.mem_map, Set.mem_ofPred_eq, Prod.exists,
    (tight_hillRows _).mem_shown_iff]
  constructor
  · rintro ⟨_, _, ⟨r, c, hhas, hcell⟩, rfl⟩
    obtain ⟨rfl, rfl⟩ := Prod.mk.inj hcell
    exact ⟨r, c, hhas, by simp⟩
  · rintro ⟨r, c, hhas, rfl⟩
    exact ⟨_, _, ⟨r, c, hhas, rfl⟩, by simp⟩

/-- The hill check recognises the hexagons of radius six. With the distance of two cells, which is
the least number of steps from one to the other, a list of cells passes the check if and only if its
cells are all those that are no farther than six from some cell. In particular cells that have all
walked the same way pass if and only if they did before, on rows of the same parity or not. -/
theorem isLegalHill_iff_distance :
    (∀ a b : Hex,
      IsLeast {n | ∃ ds : List Direction, ds.length = n ∧ a.walk ds = b} (a.distance b)) ∧
    (∀ cells : List (Nat × Nat), (ofCells cells).isLegalHill = true ↔
      ∃ centre : Hex, cellsAt cells = {h | centre.distance h ≤ 6}) ∧
    ∀ (cells cells' : List (Nat × Nat)) (ds : List Direction),
      cellsAt cells' = (fun h : Hex => h.walk ds) '' cellsAt cells →
      (ofCells cells').isLegalHill = (ofCells cells).isLegalHill := by
  refine ⟨Hex.isLeast_distance, fun cells => ?_, fun cells cells' ds hwalk => ?_⟩
  · simp only [← Hex.ball_eq]
    exact isLegalHill_ofCells_iff_ball
  · rw [Bool.eq_iff_iff, isLegalHill_ofCells_iff_ball, isLegalHill_ofCells_iff_ball, hwalk]
    exact Hex.exists_ball_image_walk_iff ds

/-- A hexagon on an even row passes the check. So it does when all of its cells have made a step to
an odd row, although they are listed from the last to the first then, and each of them twice. -/
theorem isLegalHill_iff_distance_step :
    let cells := hexagonCells 4 3
    let cells' := (hexagonCells 5 2 ++ hexagonCells 5 2).reverse
    (ofCells cells).isLegalHill = true ∧
      cellsAt cells' = (fun h : Hex => h.walk [.southWest]) '' cellsAt cells ∧
      (ofCells cells').isLegalHill = (ofCells cells).isLegalHill := by
  intro cells cells'
  have htwice : cellsAt cells' = cellsAt (hexagonCells 5 2) := by
    simp only [cells', cellsAt, List.mem_reverse, List.mem_append, or_self]
  have hwalk : cellsAt cells' = (fun h : Hex => h.walk [.southWest]) '' cellsAt cells := by
    rw [htwice, cellsAt_hexagonCells, cellsAt_hexagonCells, Hex.image_walk_ball]
    rfl
  exact ⟨isLegalHill_ofCells_iff_ball.2 ⟨_, cellsAt_hexagonCells 4 3⟩, hwalk,
    isLegalHill_iff_distance.2.2 cells cells' [.southWest] hwalk⟩

end Silhouette

end Formicary
