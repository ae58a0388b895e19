import Formicary.Proofs.World.Regions

/-!
# What a fill reaches

A fill may begin with any record of the cells seen: the records are shared between fills, so a fill
also meets the marks that earlier ones have left. It reaches the cells of the start's kind that are
joined to the start by cells not marked when it began (`WorldMap.reach`), and marks them.

* `WorldMap.exists_emptied`: the loop of a fill ends, since every round takes a cell off the stack
  and every cell that is put there was unmarked before;
* `WorldMap.fill_reach`: a fill finds exactly the cells it can reach, each once, unless one of them
  offends against the distance that hills keep (`WorldMap.Offends`); then a neighbour is reported
  that should not be there.
-/

namespace Formicary

namespace WorldMap

variable {world : WorldMap} {target tile : Tile} {seen : Array Bool} {stack found : List Hex}
  {start h : Hex} {R : Set Hex} {n : Nat}

/-! ### The loop -/

/-- The loop of a fill ends after `n` rounds with a result. Each round takes a cell off the stack
and looks at its neighbours. -/
inductive Emptied (world : WorldMap) (target : Tile) : Nat → Array Bool → List Hex → List Hex →
    Array Bool × Except WorldError (List Hex) → Prop where
  /-- The stack is empty. -/
  | done {seen : Array Bool} {found : List Hex} :
    Emptied world target 0 seen [] found (seen, .ok found.reverse)
  /-- A neighbour ends the loop. -/
  | failed {seen seen' : Array Bool} {h : Hex} {stack found : List Hex} {e : WorldError}
    (hexpand : expand world target h Direction.all seen stack = (seen', .error e)) :
    Emptied world target 1 seen (h :: stack) found (seen', .error e)
  /-- The cell is noted, and the loop goes on. -/
  | round {n : Nat} {seen seen' : Array Bool} {h : Hex} {stack stack' found : List Hex}
    {result : Array Bool × Except WorldError (List Hex)}
    (hexpand : expand world target h Direction.all seen stack = (seen', .ok stack'))
    (hrest : Emptied world target n seen' stack' (h :: found) result) :
    Emptied world target (n + 1) seen (h :: stack) found result

/-- The loop ends after no more rounds than there are unmarked cells and cells on the stack. -/
theorem exists_emptied (world : WorldMap) (target : Tile) (seen : Array Bool)
    (stack found : List Hex) : ∃ n ≤ seen.count false + stack.length,
      Emptied world target n seen stack found (fillFrom world target seen stack found) := by
  fun_induction fillFrom world target seen stack found with
  | case1 seen found => exact ⟨0, Nat.zero_le _, .done⟩
  | case2 seen found h stack seen' stack' hexpand ih =>
    obtain ⟨n, hle, hrest⟩ := ih
    -- What was put on the stack has been unmarked before, and one cell was taken off.
    have hcount := count_add_length_of_expand hexpand
    refine ⟨n + 1, ?_, .round hexpand hrest⟩
    rw [List.length_cons]
    omega
  | case3 seen found h stack seen' e hexpand =>
    refine ⟨1, ?_, .failed hexpand⟩
    rw [List.length_cons]
    omega

/-- Marking a cell as seen leaves no more unseen cells. -/
theorem count_setIfInBounds_le (seen : Array Bool) (i : Nat) :
    (seen.setIfInBounds i true).count false ≤ seen.count false := by
  by_cases hi : i < seen.size
  · rw [Array.setIfInBounds, dif_pos hi, Array.count_set]
    exact Nat.sub_le _ _
  · rw [Array.setIfInBounds, dif_neg hi]

/-! ### The record -/

/-- Looking at neighbours does not change the length of the record. -/
theorem size_expand (world : WorldMap) (target : Tile) (h : Hex) (ds : List Direction)
    (seen : Array Bool) (stack : List Hex) :
    (expand world target h ds seen stack).1.size = seen.size := by
  fun_induction expand world target h ds seen stack with
  | case1 => rfl
  | _ => simp_all

theorem size_fillFrom (world : WorldMap) (target : Tile) (seen : Array Bool)
    (stack found : List Hex) : (fillFrom world target seen stack found).1.size = seen.size := by
  fun_induction fillFrom world target seen stack found with
  | case1 => rfl
  | case2 seen found h stack seen' stack' hexpand ih =>
    rw [ih, ← size_expand world target h Direction.all seen stack, hexpand]
  | case3 seen found h stack seen' e hexpand =>
    rw [← size_expand world target h Direction.all seen stack, hexpand]

/-- A fill does not change the length of the record, whether it fails or not. -/
theorem size_fill (world : WorldMap) (start : Hex) (seen : Array Bool) :
    (world.fill start seen).1.size = seen.size := by
  rw [fill]
  cases world.index? start with
  | none => rfl
  | some i =>
    show (fillFrom ..).1.size = seen.size
    rw [size_fillFrom, Array.size_setIfInBounds]

/-! ### What is found -/

/-- A cell offends against the distance that hills keep: it is next to one of some cells of a
colony's hill, and there is rock or the hill of the other colony on it. -/
def Offends (world : WorldMap) (tile : Tile) (R : Set Hex) (y : Hex) : Prop :=
  ∃ color, tile = .hill color ∧
    (world.tile? y = some .rock ∨ world.tile? y = some (.hill color.other)) ∧
    ∃ x ∈ R, x.Adjacent y

/-- Only hills forbid anything. -/
theorem mem_forbidden_iff_hill {y : Hex} : y ∈ world.forbidden tile ↔ ∃ color, tile = .hill color ∧
    (world.tile? y = some .rock ∨ world.tile? y = some (.hill color.other)) := by
  cases tile with
  | hill color => simp [mem_forbidden_hill_iff]
  | rock | clear | food => simp [forbidden, Tile.forbids]

theorem offends_iff {y : Hex} :
    world.Offends tile R y ↔ y ∈ world.forbidden tile ∧ ∃ x ∈ R, x.Adjacent y := by
  rw [mem_forbidden_iff_hill]
  constructor
  · rintro ⟨color, htile, hground, hnear⟩
    exact ⟨⟨color, htile, hground⟩, hnear⟩
  · rintro ⟨⟨color, htile, hground⟩, hnear⟩
    exact ⟨color, htile, hground, hnear⟩

/-- A fill computes what can be reached, whatever is marked when it begins. If no neighbour of what
can be reached offends, each cell that can be reached is found once, the start first, and exactly
these cells are marked in addition. Otherwise a neighbour that offends is reported, and nothing is
marked that cannot be reached. The loop ends in any case. -/
theorem fill_reach (hworld : world.WellFormed) (hsize : seen.size = world.tiles.size)
    (hstart : world.Contains start) : ∃ tile, world.tile? start = some tile ∧
      ((¬∃ y, world.Offends tile (world.reach tile seen start) y) →
        ∃ seen' cells, world.fill start seen = (seen', .ok cells) ∧ cells.Nodup ∧
          cells.head? = some start ∧ (∀ x, x ∈ cells ↔ x ∈ world.reach tile seen start) ∧
          seen'.size = seen.size ∧
          world.marked seen' = world.marked seen ∪ world.reach tile seen start) ∧
      ((∃ y, world.Offends tile (world.reach tile seen start) y) →
        ∃ seen', ∃ row col : Nat,
          world.fill start seen = (seen', .error (.hillAdjacency row col)) ∧
          world.Contains ⟨row, col⟩ ∧
          world.Offends tile (world.reach tile seen start) ⟨row, col⟩ ∧
          seen'.size = seen.size ∧ world.marked seen ⊆ world.marked seen' ∧
          world.marked seen' ⊆ world.marked seen ∪ world.reach tile seen start) ∧
      ∃ i, world.index? start = some i ∧ ∃ rounds ≤ seen.count false + 1, Emptied world tile
        rounds (seen.setIfInBounds i true) [start] [] (world.fill start seen) := by
  obtain ⟨i, hi⟩ : ∃ i, world.index? start = some i := ⟨_, Frame.index?_eq_some_iff.2 ⟨hstart, rfl⟩⟩
  have htile := hworld.tile?_eq hi
  refine ⟨_, htile, ?_, ?_, i, hi, ?_⟩
  · -- A fill that failed would have met a neighbour that offends.
    intro hallowed
    rcases fill_spec hworld hsize htile with
      ⟨seen', cells, hfill, hsize', hnodup, hhead, hmem, hmarked, -⟩ |
      ⟨_, x, d, hx, hforbidden, -⟩
    · refine ⟨seen', cells, hfill, hnodup, hhead, hmem, hsize'.trans hsize.symm, ?_⟩
      ext x
      rw [hmarked, hmem, Set.mem_union]
    · exact absurd ⟨_, offends_iff.2 ⟨hforbidden, x, hx, Hex.adjacent_step d x⟩⟩ hallowed
  · -- A fill that came to its end would have met the neighbour that offends.
    rintro ⟨y, hy⟩
    rcases fill_spec hworld hsize htile with
      ⟨_, _, -, -, -, -, hmem, -, hallowed⟩ | ⟨seen', x, d, hx, hforbidden, hle, hge, hfill⟩
    · obtain ⟨hforbidden, x, hx, d, rfl⟩ := offends_iff.1 hy
      exact absurd hforbidden (hallowed x ((hmem x).2 hx) d)
    · -- The cell reported has a tile, so its row and column are natural numbers.
      obtain ⟨tile', htile', -⟩ := id hforbidden
      have hnatural := natural_of_tile? htile'
      refine ⟨seen', _, _, hfill, ?_, ?_, ?_, hle, hge⟩
      · rw [hnatural]
        exact contains_of_tile? htile'
      · rw [hnatural]
        exact offends_iff.2 ⟨hforbidden, x, hx, Hex.adjacent_step d x⟩
      · rw [← size_fill world start seen, hfill]
  · obtain ⟨rounds, hle, hloop⟩ := exists_emptied world (world.tiles.getD i .rock)
      (seen.setIfInBounds i true) [start] []
    refine ⟨rounds, hle.trans (Nat.add_le_add_right (count_setIfInBounds_le seen i) 1), ?_⟩
    rw [fill, hi]
    exact hloop

/-- A record for the small world in which two cells are marked, both of them with food. -/
def outcropMarks : Array Bool :=
  #[false, false, true, true, false, false, false, false, false, false, false, false]

/-- In the small world a fill may start from a marked cell. From there the food is reached that is
not behind the other mark; a fill from the hill runs into rock. -/
theorem fill_reach_outcrop :
    outcrop.WellFormed ∧ outcropMarks.size = outcrop.tiles.size ∧
      (outcrop.Contains ⟨0, 2⟩ ∧ (⟨0, 2⟩ : Hex) ∈ outcrop.marked outcropMarks ∧
        ∃ seen' cells, outcrop.fill ⟨0, 2⟩ outcropMarks = (seen', .ok cells) ∧ cells.Nodup ∧
          cells.head? = some ⟨0, 2⟩ ∧
          (∀ x, x ∈ cells ↔ x ∈ outcrop.reach (.food 2) outcropMarks ⟨0, 2⟩) ∧
          seen'.size = outcropMarks.size ∧ outcrop.marked seen' =
            outcrop.marked outcropMarks ∪ outcrop.reach (.food 2) outcropMarks ⟨0, 2⟩) ∧
      outcrop.Contains ⟨1, 0⟩ ∧ ∃ seen', ∃ row col : Nat,
        outcrop.fill ⟨1, 0⟩ outcropMarks = (seen', .error (.hillAdjacency row col)) ∧
        outcrop.Offends (.hill .red)
          (outcrop.reach (.hill .red) outcropMarks ⟨1, 0⟩) ⟨row, col⟩ := by
  have hworld : outcrop.WellFormed := rfl
  have hfood : outcrop.Contains ⟨0, 2⟩ := by decide
  have hhill : outcrop.Contains ⟨1, 0⟩ := by decide
  have hsize : outcropMarks.size = outcrop.tiles.size := rfl
  refine ⟨hworld, hsize, ⟨hfood, ⟨2, by decide, rfl⟩, ?_⟩, hhill, ?_⟩
  · obtain ⟨tile, htile, hok, -⟩ := fill_reach hworld hsize hfood
    obtain rfl : .food 2 = tile := Option.some.inj htile
    refine hok ?_
    rintro ⟨y, color, htile', -⟩
    cases htile'
  · obtain ⟨tile, htile, -, herror, -⟩ := fill_reach hworld hsize hhill
    obtain rfl : .hill .red = tile := Option.some.inj htile
    -- To the north-west of the hill there is rock.
    have hoffends : outcrop.Offends (.hill .red)
        (outcrop.reach (.hill .red) outcropMarks ⟨1, 0⟩) ⟨0, 0⟩ :=
      ⟨.red, rfl, Or.inl rfl, ⟨1, 0⟩, .refl, .northWest, rfl⟩
    obtain ⟨seen', row, col, hfill, -, hoffends', -⟩ := herror ⟨_, hoffends⟩
    exact ⟨seen', row, col, hfill, hoffends'⟩

end WorldMap

end Formicary
