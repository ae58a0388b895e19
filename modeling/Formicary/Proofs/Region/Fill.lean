import Formicary.Proofs.Region.Connected
import Formicary.Region.Fill
import Mathlib.Data.Set.Insert
import Mathlib.Tactic.Tauto

/-!
# Flood fill finds regions

`WorldMap.fill` starts from a cell and finds all cells that are joined to it by cells of its kind
that were not seen before (`fill_spec`), or fails at a neighbour that the kind forbids. The
invariant of its loop is `Filling`: the cells marked are those marked at the beginning and those
on the stack or noted, each of these once, and no unmarked cell of the kind is next to a cell that
is noted.

Filling again and again until all cells are seen gives every region of a kind exactly once
(`components_spec`).
-/

namespace Formicary

namespace WorldMap

variable {world : WorldMap} {target tile : Tile} {seen seen' old : Array Bool}
  {stack stack' found : List Hex} {ds : List Direction} {h start : Hex} {i : Nat} {e : WorldError}

/-- The cells of a world whose tile is of a given kind. -/
def cellsOf (world : WorldMap) (target : Tile) : Set Hex :=
  {h | ∃ tile, world.tile? h = some tile ∧ tile.sameKind target = true}

/-- The cells of a world that may not be next to a cell of a given kind. -/
def forbidden (world : WorldMap) (target : Tile) : Set Hex :=
  {h | ∃ tile, world.tile? h = some tile ∧ target.forbids tile = true}

/-- The cells of a world that a record marks as seen. -/
def marked (world : WorldMap) (seen : Array Bool) : Set Hex :=
  {h | ∃ i, world.index? h = some i ∧ seen[i]? = some true}

/-- A well-formed world has as many tiles as its frame has cells. -/
theorem WellFormed.size_eq (hworld : world.WellFormed) :
    world.tiles.size = world.height * world.width := by rw [hworld, Nat.mul_comm]

/-- The number of a cell is in range for whatever has one entry for each tile. -/
theorem WellFormed.lt_size (hworld : world.WellFormed) (hsize : seen.size = world.tiles.size)
    (hi : world.index? h = some i) : i < seen.size := by
  rw [hsize, hworld.size_eq]
  exact Frame.lt_of_index? hi

/-- In a well-formed world every cell of the frame has a tile. -/
theorem WellFormed.tile?_eq (hworld : world.WellFormed) (hi : world.index? h = some i) :
    world.tile? h = some (world.tiles.getD i .rock) := by
  have hlt : i < world.tiles.size := hworld.size_eq ▸ Frame.lt_of_index? hi
  rw [tile?, hi]
  simp [hlt]

theorem mem_cellsOf_iff (hworld : world.WellFormed) (hi : world.index? h = some i) :
    h ∈ world.cellsOf target ↔ (world.tiles.getD i .rock).sameKind target = true := by
  simp [cellsOf, hworld.tile?_eq hi]

theorem mem_forbidden_iff (hworld : world.WellFormed) (hi : world.index? h = some i) :
    h ∈ world.forbidden target ↔ target.forbids (world.tiles.getD i .rock) = true := by
  simp [forbidden, hworld.tile?_eq hi]

/-- Where there is no cell there is no tile of any kind. -/
theorem tile?_eq_none (hi : world.index? h = none) : world.tile? h = none := by
  rw [tile?, hi]

/-- The cells of a kind lie in the frame. -/
theorem exists_index?_of_mem_cellsOf (hmem : h ∈ world.cellsOf target) :
    ∃ i, world.index? h = some i := by
  obtain ⟨tile, htile, -⟩ := hmem
  cases hi : world.index? h with
  | some i => exact ⟨i, rfl⟩
  | none => simp [tile?_eq_none hi] at htile

theorem mem_marked_iff_getD (hi : world.index? h = some i) (hlt : i < seen.size) :
    h ∈ world.marked seen ↔ seen.getD i true = true := by
  simp [marked, hi, hlt]

/-- Marking a cell marks this cell and no other one. -/
theorem marked_setIfInBounds (hi : world.index? h = some i) (hlt : i < seen.size) :
    world.marked (seen.setIfInBounds i true) = insert h (world.marked seen) := by
  ext x
  simp only [marked, Set.mem_ofPred_eq, Set.mem_insert_iff, Array.getElem?_setIfInBounds]
  constructor
  · rintro ⟨j, hj, hmark⟩
    by_cases hij : i = j
    · subst hij
      -- Cells with the same number are the same.
      exact Or.inl ((Frame.hex_of_index? hj).symm.trans (Frame.hex_of_index? hi))
    · rw [if_neg hij] at hmark
      exact Or.inr ⟨j, hj, hmark⟩
  · rintro (rfl | ⟨j, hj, hmark⟩)
    · exact ⟨i, hi, by simp [hlt]⟩
    · refine ⟨j, hj, ?_⟩
      by_cases hij : i = j
      · rw [if_pos hij, if_pos hlt]
      · rw [if_neg hij, hmark]

/-! ### Kinds -/

theorem sameKind_refl (tile : Tile) : tile.sameKind tile = true := by
  cases tile <;> simp [Tile.sameKind]

/-- Tiles of one kind are of the same kind as any third tile. -/
theorem sameKind_congr (hkind : tile.sameKind target = true) (tile' : Tile) :
    tile'.sameKind tile = tile'.sameKind target := by
  cases tile <;> cases target <;> cases tile' <;> simp_all [Tile.sameKind]

/-- Tiles of one kind forbid the same tiles. -/
theorem forbids_congr (hkind : tile.sameKind target = true) (tile' : Tile) :
    tile.forbids tile' = target.forbids tile' := by
  cases tile <;> cases target <;> cases tile' <;> simp_all [Tile.sameKind, Tile.forbids]

theorem cellsOf_congr (hkind : tile.sameKind target = true) :
    world.cellsOf tile = world.cellsOf target := by
  ext h
  simp only [cellsOf, Set.mem_ofPred_eq, sameKind_congr hkind]

theorem forbidden_congr (hkind : tile.sameKind target = true) :
    world.forbidden tile = world.forbidden target := by
  ext h
  simp only [forbidden, Set.mem_ofPred_eq, forbids_congr hkind]

theorem not_forbidden_of_mem_cellsOf (hmem : h ∈ world.cellsOf target) :
    h ∉ world.forbidden target := by
  rintro ⟨tile', htile', hforbids⟩
  obtain ⟨tile, htile, hkind⟩ := hmem
  obtain rfl : tile = tile' := Option.some.inj (htile.symm.trans htile')
  cases tile <;> cases target <;> simp_all [Tile.sameKind, Tile.forbids]

/-! ### Looking at neighbours -/

variable {d : Direction}

/-- A neighbour that is allowed and not to be marked changes nothing. -/
theorem expand_cons_of_skip (hworld : world.WellFormed) (hsize : seen.size = world.tiles.size)
    (hallowed : d.step h ∉ world.forbidden target)
    (hold : d.step h ∈ world.cellsOf target → d.step h ∈ world.marked seen) :
    expand world target h (d :: ds) seen stack = expand world target h ds seen stack := by
  rw [expand]
  cases hi : world.index? (d.step h) with
  | none => rfl
  | some i =>
    have hlt := hworld.lt_size hsize hi
    rw [mem_cellsOf_iff hworld hi, mem_marked_iff_getD hi hlt] at hold
    rw [mem_forbidden_iff hworld hi] at hallowed
    by_cases hkind : (world.tiles.getD i .rock).sameKind target = true
    · simp only [hkind, hold hkind, ↓reduceIte]
    · exact (if_neg hkind).trans (if_neg hallowed)

/-- A neighbour of the kind that is not yet marked is marked and put on the stack. -/
theorem expand_cons_of_push (hworld : world.WellFormed) (hsize : seen.size = world.tiles.size)
    (hcell : d.step h ∈ world.cellsOf target) (hnew : d.step h ∉ world.marked seen) :
    ∃ seen₁ : Array Bool, seen₁.size = world.tiles.size ∧
      world.marked seen₁ = insert (d.step h) (world.marked seen) ∧
      expand world target h (d :: ds) seen stack =
        expand world target h ds seen₁ (d.step h :: stack) := by
  obtain ⟨i, hi⟩ := exists_index?_of_mem_cellsOf hcell
  have hlt := hworld.lt_size hsize hi
  refine ⟨seen.setIfInBounds i true, ?_, marked_setIfInBounds hi hlt, ?_⟩
  · rw [Array.size_setIfInBounds, hsize]
  · rw [mem_cellsOf_iff hworld hi] at hcell
    rw [mem_marked_iff_getD hi hlt] at hnew
    rw [expand]
    simp only [hi, hcell, hnew, ↓reduceIte, Bool.false_eq_true]

/-- A forbidden neighbour ends the fill. -/
theorem expand_cons_of_forbidden (hworld : world.WellFormed)
    (hforbidden : d.step h ∈ world.forbidden target) :
    expand world target h (d :: ds) seen stack =
      (seen, .error (.hillAdjacency (d.step h).row.toNat (d.step h).col.toNat)) := by
  have hkind : d.step h ∉ world.cellsOf target := fun hmem =>
    not_forbidden_of_mem_cellsOf hmem hforbidden
  rw [expand]
  cases hi : world.index? (d.step h) with
  | none =>
    obtain ⟨tile, htile, -⟩ := hforbidden
    simp [tile?_eq_none hi] at htile
  | some i =>
    rw [mem_cellsOf_iff hworld hi] at hkind
    rw [mem_forbidden_iff hworld hi] at hforbidden
    exact (if_neg hkind).trans (if_pos hforbidden)

/-! ### The loop -/

/-- The cells that a fill from a start may reach: those that are joined to it by cells of the kind
that were not marked before. -/
def reach (world : WorldMap) (target : Tile) (old : Array Bool) (start : Hex) : Set Hex :=
  {x | Hex.Joined (world.cellsOf target \ world.marked old) start x}

/-- How far a fill has come that began with the record `old`: the cell noted last has still to be
looked at in the directions `ds`, and all others noted have been looked at in all directions. -/
structure Filling (world : WorldMap) (target : Tile) (old : Array Bool) (start : Hex)
    (seen : Array Bool) (stack found : List Hex) (ds : List Direction) : Prop where
  /-- The record keeps its length. -/
  size_eq : seen.size = world.tiles.size
  /-- Marked are the cells marked at the beginning and those on the stack or noted. -/
  mem_marked_iff : ∀ x, x ∈ world.marked seen ↔ x ∈ world.marked old ∨ x ∈ stack ∨ x ∈ found
  /-- No cell comes twice. -/
  nodup : (found ++ stack).Nodup
  /-- Only what can be reached is put on the stack and noted. -/
  reached : ∀ x, x ∈ stack ∨ x ∈ found → x ∈ world.reach target old start
  /-- The start is the first cell noted. -/
  first : found.getLast? = some start ∨ found = [] ∧ stack = [start]
  /-- All neighbours that have been looked at are allowed, and marked if they are of the kind. -/
  looked : ∀ x ∈ found, ∀ d, found.head? = some x ∧ d ∈ ds ∨
    d.step x ∉ world.forbidden target ∧
      (d.step x ∈ world.cellsOf target → d.step x ∈ world.marked seen)

/-- The fill fails because a neighbour of a cell that can be reached is forbidden. -/
def Fails (world : WorldMap) (target : Tile) (old : Array Bool) (start : Hex)
    (result : Array Bool × Except WorldError (List Hex)) : Prop :=
  ∃ seen x, ∃ d : Direction, x ∈ world.reach target old start ∧
    d.step x ∈ world.forbidden target ∧
    (∀ y, y ∈ world.marked old → y ∈ world.marked seen) ∧
    (∀ y, y ∈ world.marked seen → y ∈ world.marked old ∨ y ∈ world.reach target old start) ∧
    result = (seen, .error (.hillAdjacency (d.step x).row.toNat (d.step x).col.toNat))

theorem Filling.start_mem (hfill : Filling world target old start seen stack found ds) :
    start ∈ stack ∨ start ∈ found := by
  rcases hfill.first with hlast | ⟨-, rfl⟩
  · exact Or.inr (List.mem_of_getLast? hlast)
  · exact Or.inl List.mem_cons_self

/-- The cell on top of the stack is noted, with all its neighbours still to be looked at. -/
theorem Filling.pop (hfill : Filling world target old start seen (h :: stack) found []) :
    Filling world target old start seen stack (h :: found) Direction.all where
  size_eq := hfill.size_eq
  mem_marked_iff x := by
    simp only [hfill.mem_marked_iff, List.mem_cons]
    tauto
  nodup := (List.perm_middle.nodup_iff).1 hfill.nodup
  reached x hx := by
    apply hfill.reached
    simp only [List.mem_cons] at hx ⊢
    tauto
  first := by
    rcases hfill.first with hlast | ⟨rfl, hstack⟩
    · exact Or.inl (by rw [List.getLast?_cons, hlast]; rfl)
    · obtain ⟨rfl, -⟩ := List.cons_eq_cons.1 hstack
      exact Or.inl rfl
  -- The cell noted before, if any, has no direction left.
  looked x hx d := by
    rcases List.mem_cons.1 hx with rfl | hx
    · exact Or.inl ⟨rfl, d.mem_all⟩
    · rcases hfill.looked x hx d with ⟨-, hd⟩ | hlooked
      · simp at hd
      · exact Or.inr hlooked

/-- A neighbour that changes nothing has been looked at. -/
theorem Filling.skip (hfill : Filling world target old start seen stack (h :: found) (d :: ds))
    (hallowed : d.step h ∉ world.forbidden target)
    (hold : d.step h ∈ world.cellsOf target → d.step h ∈ world.marked seen) :
    Filling world target old start seen stack (h :: found) ds := by
  refine { hfill with looked := ?_ }
  intro x hx d'
  rcases hfill.looked x hx d' with ⟨hhead, hd'⟩ | hlooked
  · obtain rfl : h = x := Option.some.inj hhead
    rcases List.mem_cons.1 hd' with rfl | hd'
    · exact Or.inr ⟨hallowed, hold⟩
    · exact Or.inl ⟨rfl, hd'⟩
  · exact Or.inr hlooked

/-- A neighbour that is put on the stack has been looked at. -/
theorem Filling.push (hfill : Filling world target old start seen stack (h :: found) (d :: ds))
    (hcell : d.step h ∈ world.cellsOf target) (hnew : d.step h ∉ world.marked seen)
    (hsize : seen'.size = world.tiles.size)
    (hmarked : world.marked seen' = insert (d.step h) (world.marked seen)) :
    Filling world target old start seen' (d.step h :: stack) (h :: found) ds := by
  have hmem : ∀ x, x ∈ world.marked seen' ↔ x = d.step h ∨ x ∈ world.marked seen := by
    intro x
    rw [hmarked, Set.mem_insert_iff]
  have hunmarked := (hfill.mem_marked_iff (d.step h)).not.1 hnew
  push Not at hunmarked
  exact {
    size_eq := hsize
    mem_marked_iff := by
      intro x
      simp only [hmem, hfill.mem_marked_iff, List.mem_cons]
      tauto
    nodup := by
      apply (List.perm_middle.nodup_iff).2
      refine List.nodup_cons.2 ⟨?_, hfill.nodup⟩
      rw [List.mem_append]
      tauto
    reached := by
      intro x hx
      rw [List.mem_cons] at hx
      rcases hx with (rfl | hx) | hx
      · have hhead := hfill.reached h (Or.inr List.mem_cons_self)
        exact Hex.Joined.trans hhead
          (.of_adjacent (Hex.adjacent_step d h) ⟨hcell, hunmarked.1⟩)
      · exact hfill.reached x (Or.inl hx)
      · exact hfill.reached x (Or.inr hx)
    first := by
      rcases hfill.first with hlast | ⟨hnil, -⟩
      · exact Or.inl hlast
      · simp at hnil
    looked := by
      intro x hx d'
      rcases hfill.looked x hx d' with ⟨hhead, hd'⟩ | ⟨hallowed, hold⟩
      · obtain rfl : h = x := Option.some.inj hhead
        -- The neighbour itself is marked now; the directions behind it have still to be looked at.
        rcases List.mem_cons.1 hd' with rfl | hd'
        · exact Or.inr ⟨not_forbidden_of_mem_cellsOf hcell, fun _ => (hmem _).2 (Or.inl rfl)⟩
        · exact Or.inl ⟨rfl, hd'⟩
      · exact Or.inr ⟨hallowed, fun hcell' => (hmem _).2 (Or.inr (hold hcell'))⟩ }

/-- A record that is reached in a fill marks what was marked before and what can be reached. -/
theorem Filling.marked_le (hfill : Filling world target old start seen stack found ds) :
    (∀ y, y ∈ world.marked old → y ∈ world.marked seen) ∧
      ∀ y, y ∈ world.marked seen → y ∈ world.marked old ∨ y ∈ world.reach target old start := by
  refine ⟨fun y hy => (hfill.mem_marked_iff y).2 (Or.inl hy), fun y hy => ?_⟩
  rcases (hfill.mem_marked_iff y).1 hy with hold | hnew
  · exact Or.inl hold
  · exact Or.inr (hfill.reached y hnew)

/-- Looking at the neighbours of the cell noted last comes to an end or fails. -/
theorem Filling.expand (hworld : world.WellFormed)
    (hfill : Filling world target old start seen stack (h :: found) ds) :
    (∃ seen' stack', world.expand target h ds seen stack = (seen', .ok stack') ∧
        Filling world target old start seen' stack' (h :: found) []) ∨
      ∃ seen' e, world.expand target h ds seen stack = (seen', .error e) ∧
        Fails world target old start (seen', .error e) := by
  induction ds generalizing seen stack with
  | nil => exact Or.inl ⟨seen, stack, rfl, hfill⟩
  | cons d ds ih =>
    by_cases hforbidden : d.step h ∈ world.forbidden target
    · have hlast := hfill.reached h (Or.inr List.mem_cons_self)
      obtain ⟨hle, hge⟩ := hfill.marked_le
      exact Or.inr ⟨_, _, expand_cons_of_forbidden hworld hforbidden,
        seen, h, d, hlast, hforbidden, hle, hge, rfl⟩
    · by_cases hold : d.step h ∈ world.cellsOf target → d.step h ∈ world.marked seen
      · rw [expand_cons_of_skip hworld hfill.size_eq hforbidden hold]
        exact ih (hfill.skip hforbidden hold)
      · obtain ⟨hcell, hnew⟩ := Classical.not_imp.1 hold
        obtain ⟨seen₁, hsize, hmarked, hexp⟩ :=
          expand_cons_of_push hworld hfill.size_eq hcell hnew
        rw [hexp]
        exact ih (hfill.push hcell hnew hsize hmarked)

/-- The loop comes to an end with an empty stack or fails. -/
theorem Filling.fillFrom (hworld : world.WellFormed)
    (hfill : Filling world target old start seen stack found []) :
    (∃ seen' cells, world.fillFrom target seen stack found = (seen', .ok cells) ∧
        Filling world target old start seen' [] cells.reverse []) ∨
      Fails world target old start (world.fillFrom target seen stack found) := by
  fun_induction WorldMap.fillFrom world target seen stack found with
  | case1 seen found => exact Or.inl ⟨seen, found.reverse, rfl, by rwa [List.reverse_reverse]⟩
  | case2 seen found h rest seen' stack' hexp ih =>
    rcases hfill.pop.expand hworld with ⟨seen₁, stack₁, hexp', hfill'⟩ | ⟨_, _, hexp', -⟩
    · rw [hexp, Prod.mk.injEq, Except.ok.injEq] at hexp'
      obtain ⟨rfl, rfl⟩ := hexp'
      exact ih hfill'
    · simp [hexp] at hexp'
  | case3 seen found h rest seen' e hexp =>
    rcases hfill.pop.expand hworld with ⟨_, _, hexp', -⟩ | ⟨_, _, hexp', hfails⟩
    · simp [hexp] at hexp'
    · rw [hexp] at hexp'
      rw [hexp']
      exact Or.inr hfails

/-! ### One region -/

/-- A fill begins with the start on the stack and marked. -/
theorem filling_start (hsize : old.size = world.tiles.size) (hi : world.index? start = some i)
    (hlt : i < old.size) :
    Filling world target old start (old.setIfInBounds i true) [start] [] [] := by
  refine ⟨by rw [Array.size_setIfInBounds, hsize], fun x => ?_, by simp, ?_, Or.inr ⟨rfl, rfl⟩,
    by simp⟩
  · rw [marked_setIfInBounds hi hlt, Set.mem_insert_iff, List.mem_singleton]
    simp [or_comm]
  · simp only [List.mem_singleton, List.not_mem_nil, or_false]
    rintro x rfl
    exact .refl

/-- When nothing is left on the stack, all neighbours of the cells noted have been looked at. -/
theorem Filling.looked_all (hfill : Filling world target old start seen [] found [])
    (hh : h ∈ found) (d : Direction) : d.step h ∉ world.forbidden target ∧
      (d.step h ∈ world.cellsOf target → d.step h ∈ world.marked seen) := by
  rcases hfill.looked h hh d with ⟨-, hd⟩ | hlooked
  · simp at hd
  · exact hlooked

/-- When nothing is left on the stack, the cells that can be reached have been noted. -/
theorem Filling.mem_found_iff (hfill : Filling world target old start seen [] found []) (x : Hex) :
    x ∈ found ↔ x ∈ world.reach target old start := by
  refine ⟨fun hx => hfill.reached x (Or.inr hx), fun hx => ?_⟩
  have hstart : start ∈ {y | y ∈ found} := by simpa using hfill.start_mem
  -- The cells noted are closed under steps to cells of the kind that were not marked.
  refine Hex.Joined.mem_of_closed hx hstart ?_
  rintro x hx y ⟨hcell, hunmarked⟩ ⟨d, rfl⟩
  have hmarked := (hfill.looked_all hx d).2 hcell
  rw [hfill.mem_marked_iff] at hmarked
  exact (hmarked.resolve_left hunmarked).resolve_left List.not_mem_nil

/-- A fill finds every cell that can be reached from the start exactly once, the start first, or
fails at a forbidden neighbour of such a cell. -/
theorem fill_spec (hworld : world.WellFormed) (hsize : old.size = world.tiles.size)
    (htile : world.tile? start = some tile) :
    (∃ seen cells, world.fill start old = (seen, .ok cells) ∧ seen.size = world.tiles.size ∧
        cells.Nodup ∧ cells.head? = some start ∧
        (∀ x, x ∈ cells ↔ x ∈ world.reach tile old start) ∧
        (∀ x, x ∈ world.marked seen ↔ x ∈ world.marked old ∨ x ∈ cells) ∧
        ∀ x ∈ cells, ∀ d : Direction, d.step x ∉ world.forbidden tile) ∨
      Fails world tile old start (world.fill start old) := by
  obtain ⟨i, hi⟩ : ∃ i, world.index? start = some i := by
    cases hi : world.index? start with
    | some i => exact ⟨i, rfl⟩
    | none => simp [tile?_eq_none hi] at htile
  have hlt := hworld.lt_size hsize hi
  obtain rfl : world.tiles.getD i .rock = tile :=
    Option.some.inj ((hworld.tile?_eq hi).symm.trans htile)
  rw [fill, hi]
  rcases (filling_start hsize hi hlt).fillFrom hworld with ⟨seen, cells, hfilled, hend⟩ | hfails
  · -- The cells are noted with the latest first and handed out with the start first.
    refine Or.inl ⟨seen, cells, hfilled, hend.size_eq, ?_, ?_, fun x => ?_, fun x => ?_,
      fun x hx d => (hend.looked_all (List.mem_reverse.2 hx) d).1⟩
    · have hnodup := hend.nodup
      rwa [List.append_nil, (List.reverse_perm cells).nodup_iff] at hnodup
    · rcases hend.first with hlast | ⟨-, hstack⟩
      · simpa using hlast
      · simp at hstack
    · rw [← hend.mem_found_iff, List.mem_reverse]
    · rw [hend.mem_marked_iff, List.mem_reverse]
      simp
  · exact Or.inr hfails

/-! ### All regions -/

/-- How far the search for the regions of a kind has come: `found` holds those found so far, the
latest first, and all cells before number `n` have been visited. -/
structure Sweeping (world : WorldMap) (target : Tile) (seen : Array Bool)
    (found : List (List Hex)) (n : Nat) : Prop where
  /-- The record keeps its length. -/
  size_eq : seen.size = world.tiles.size
  /-- Marked are the cells of the regions found. -/
  mem_marked_iff : ∀ x, x ∈ world.marked seen ↔ ∃ cells ∈ found, x ∈ cells
  /-- What is found are regions, with each cell once. -/
  region : ∀ cells ∈ found,
    cells.Nodup ∧ Hex.IsRegion (world.cellsOf target) {x | x ∈ cells} ∧
      ∀ x ∈ cells, ∀ d : Direction, d.step x ∉ world.forbidden target
  /-- No region is found twice. -/
  disjoint : found.Pairwise fun cells cells' => ∀ x ∈ cells, x ∉ cells'
  /-- No cell of the kind has been passed over. -/
  visited : ∀ i < n, world.hex i ∈ world.cellsOf target → world.hex i ∈ world.marked seen
  /-- A region found later has no cell as early as the first of a region found before. -/
  ordered : found.Pairwise fun later earlier => ∃ i, world.hex i ∈ earlier ∧
    ∀ x ∈ later, ∀ j, world.index? x = some j → i < j
  /-- The first cell of every region has been visited. -/
  begun : ∀ cells ∈ found, ∃ i < n, world.hex i ∈ cells

/-- From a cell that is not in a region found so far, its whole region can be reached. -/
theorem Sweeping.reach_eq {found : List (List Hex)} {n : Nat}
    (hsweep : Sweeping world target seen found n) (hstart : start ∈ world.cellsOf target)
    (hnew : start ∉ world.marked seen) :
    world.reach target seen start = {x | Hex.Joined (world.cellsOf target) start x} := by
  ext x
  constructor
  · exact fun hx => hx.mono fun y hy => hy.1
  · intro hx
    -- No step leads into a region found so far, for it would lead out of it as well.
    have hboth : x ∈ world.reach target seen start ∧ x ∉ world.marked seen := by
      induction hx with
      | refl => exact ⟨.refl, hnew⟩
      | @tail y z hprev hstep ih =>
        obtain ⟨hreach, hunmarked⟩ := ih
        have hy : y ∈ world.cellsOf target := Hex.Joined.mem hprev hstart
        have hz : z ∉ world.marked seen := by
          intro hz
          obtain ⟨cells, hcells, hzc⟩ := (hsweep.mem_marked_iff z).1 hz
          have hregion := (hsweep.region cells hcells).2.1
          have hback : y ∈ {x | Hex.Joined (world.cellsOf target) z x} :=
            .of_adjacent hstep.1.symm hy
          rw [← hregion.eq_of_mem hzc] at hback
          exact hunmarked ((hsweep.mem_marked_iff y).2 ⟨cells, hcells, hback⟩)
        exact ⟨Hex.Joined.trans hreach (.of_adjacent hstep.1 ⟨hstep.2, hz⟩), hz⟩
    exact hboth.1

/-- A cell that is not of the kind or already marked is passed over. -/
theorem Sweeping.pass {found : List (List Hex)} {n : Nat}
    (hsweep : Sweeping world target seen found n)
    (hold : world.hex n ∈ world.cellsOf target → world.hex n ∈ world.marked seen) :
    Sweeping world target seen found (n + 1) := by
  refine { hsweep with visited := fun i hi => ?_, begun := fun cells hcells => ?_ }
  · rcases Nat.lt_succ_iff_lt_or_eq.1 hi with hlt | rfl
    · exact hsweep.visited i hlt
    · exact hold
  · obtain ⟨i, hi, hmem⟩ := hsweep.begun cells hcells
    exact ⟨i, Nat.lt_succ_of_lt hi, hmem⟩

/-- What can be reached from a cell of the kind that is not marked is a region. -/
theorem Sweeping.isRegion_reach {found : List (List Hex)} {n : Nat}
    (hsweep : Sweeping world target seen found n) (hstart : start ∈ world.cellsOf target)
    (hnew : start ∉ world.marked seen) :
    Hex.IsRegion (world.cellsOf target) (world.reach target seen start) :=
  ⟨start, hstart, hsweep.reach_eq hstart hnew⟩

/-- That region is new as a whole, for its start is not marked. -/
theorem Sweeping.notMem_marked_of_reach {found : List (List Hex)} {n : Nat}
    (hsweep : Sweeping world target seen found n) (hstart : start ∈ world.cellsOf target)
    (hnew : start ∉ world.marked seen) {x : Hex} (hx : x ∈ world.reach target seen start) :
    x ∉ world.marked seen := by
  intro hmarked
  obtain ⟨cells, hcells, hxc⟩ := (hsweep.mem_marked_iff x).1 hmarked
  have hsame : world.reach target seen start = {x | x ∈ cells} :=
    (hsweep.isRegion_reach hstart hnew).eq_of_common (hsweep.region cells hcells).2.1 hx hxc
  have hstart' : start ∈ world.reach target seen start := .refl
  rw [hsame] at hstart'
  exact hnew ((hsweep.mem_marked_iff start).2 ⟨cells, hcells, hstart'⟩)

/-- From a cell of the kind that is not marked a region is found. -/
theorem Sweeping.add {found : List (List Hex)} {n : Nat} {cells : List Hex}
    (hsweep : Sweeping world target seen found n) (hn : world.index? (world.hex n) = some n)
    (hcell : world.hex n ∈ world.cellsOf target) (hnew : world.hex n ∉ world.marked seen)
    (hsize : seen'.size = world.tiles.size) (hnodup : cells.Nodup)
    (hcells : ∀ x, x ∈ cells ↔ x ∈ world.reach target seen (world.hex n))
    (hmarked : ∀ x, x ∈ world.marked seen' ↔ x ∈ world.marked seen ∨ x ∈ cells)
    (hallowed : ∀ x ∈ cells, ∀ d : Direction, d.step x ∉ world.forbidden target) :
    Sweeping world target seen' (cells :: found) (n + 1) := by
  have hregion : {x | x ∈ cells} = world.reach target seen (world.hex n) := Set.ext hcells
  have hisRegion : Hex.IsRegion (world.cellsOf target) {x | x ∈ cells} := by
    rw [hregion]
    exact hsweep.isRegion_reach hcell hnew
  have hstart : world.hex n ∈ cells := (hcells _).2 .refl
  have hdisjoint : ∀ x ∈ cells, x ∉ world.marked seen := fun x hx =>
    hsweep.notMem_marked_of_reach hcell hnew ((hcells x).1 hx)
  exact {
    size_eq := hsize
    mem_marked_iff := by
      intro x
      simp only [hmarked, hsweep.mem_marked_iff, List.mem_cons, exists_eq_or_imp]
      exact or_comm
    region := by
      intro cells' hcells'
      rcases List.mem_cons.1 hcells' with rfl | hcells'
      · exact ⟨hnodup, hisRegion, hallowed⟩
      · exact hsweep.region cells' hcells'
    disjoint := by
      refine List.pairwise_cons.2 ⟨fun cells' hcells' x hx hx' => ?_, hsweep.disjoint⟩
      exact hdisjoint x hx ((hsweep.mem_marked_iff x).2 ⟨cells', hcells', hx'⟩)
    visited := by
      intro i hi hkind
      rcases Nat.lt_succ_iff_lt_or_eq.1 hi with hlt | rfl
      · exact (hmarked _).2 (Or.inl (hsweep.visited i hlt hkind))
      · exact (hmarked _).2 (Or.inr hstart)
    ordered := by
      refine List.pairwise_cons.2 ⟨fun cells' hcells' => ?_, hsweep.ordered⟩
      obtain ⟨i, hi, hmem'⟩ := hsweep.begun cells' hcells'
      refine ⟨i, hmem', fun x hx j hj => ?_⟩
      -- A cell visited before would be marked already.
      by_contra hle
      have hjn : j < n := by omega
      have hkind : x ∈ world.cellsOf target := hisRegion.subset hx
      rw [← Frame.hex_of_index? hj] at hkind hx
      exact hdisjoint _ hx (hsweep.visited j hjn hkind)
    begun := by
      intro cells' hcells'
      rcases List.mem_cons.1 hcells' with rfl | hcells'
      · exact ⟨n, Nat.lt_succ_self n, hstart⟩
      · obtain ⟨i, hi, hmem'⟩ := hsweep.begun cells' hcells'
        exact ⟨i, Nat.lt_succ_of_lt hi, hmem'⟩ }

/-- The search comes to an end with all cells visited or fails. -/
theorem Sweeping.componentsFrom (hworld : world.WellFormed) {found : List (List Hex)} {n k : Nat}
    (hsweep : Sweeping world target seen found n) (hk : n + k = world.height * world.width) :
    (∃ seen' regions, world.componentsFrom target seen found (List.range' n k) = .ok regions ∧
        Sweeping world target seen' regions.reverse (world.height * world.width)) ∨
      ∃ x ∈ world.cellsOf target, ∃ d : Direction, d.step x ∈ world.forbidden target ∧
        world.componentsFrom target seen found (List.range' n k) =
          .error (.hillAdjacency (d.step x).row.toNat (d.step x).col.toNat) := by
  induction k generalizing seen found n with
  | zero =>
    rw [Nat.add_zero] at hk
    subst hk
    exact Or.inl ⟨seen, found.reverse, rfl, by rwa [List.reverse_reverse]⟩
  | succ k ih =>
    have hn : world.index? (world.hex n) = some n := Frame.index?_hex (by omega)
    have hlt := hworld.lt_size hsweep.size_eq hn
    rw [List.range'_succ, WorldMap.componentsFrom]
    by_cases hstart : world.hex n ∈ world.cellsOf target ∧ world.hex n ∉ world.marked seen
    · obtain ⟨hcell, hnew⟩ := hstart
      have hkind := (mem_cellsOf_iff hworld hn).1 hcell
      have htest : (!seen.getD n true && (world.tiles.getD n .rock).sameKind target) = true := by
        rw [hkind, Bool.and_true, Bool.not_eq_true', ← Bool.not_eq_true,
          ← mem_marked_iff_getD hn hlt]
        exact hnew
      rw [if_pos htest]
      rcases fill_spec hworld hsweep.size_eq (hworld.tile?_eq hn) with
        ⟨seen', cells, hfill, hsize, hnodup, -, hcells, hmarked, hallowed⟩ | hfails
      · rw [forbidden_congr hkind] at hallowed
        rw [reach, cellsOf_congr hkind] at hcells
        rw [hfill]
        exact ih (hsweep.add hn hcell hnew hsize hnodup hcells hmarked hallowed) (by omega)
      · obtain ⟨seen', x, d, hx, hforbidden, -, -, hfill⟩ := hfails
        rw [reach, cellsOf_congr hkind] at hx
        rw [forbidden_congr hkind] at hforbidden
        rw [← reach, hsweep.reach_eq hcell hnew] at hx
        rw [hfill]
        exact Or.inr ⟨x, Hex.Joined.mem hx hcell, d, hforbidden, rfl⟩
    · have htest : ¬(!seen.getD n true && (world.tiles.getD n .rock).sameKind target) = true := by
        rw [Bool.and_eq_true, Bool.not_eq_true', ← Bool.not_eq_true, ← mem_marked_iff_getD hn hlt,
          ← mem_cellsOf_iff hworld hn]
        exact fun h => hstart h.symm
      rw [if_neg htest]
      exact ih (hsweep.pass fun hcell => by_contra fun hnew => hstart ⟨hcell, hnew⟩) (by omega)

/-- The regions of a kind are found, each once and with each of its cells once, or a forbidden
neighbour of a cell of the kind. -/
theorem components_spec (hworld : world.WellFormed) (target : Tile) :
    (∃ regions : List (List Hex), world.components target = .ok regions ∧
        (∀ R, Hex.IsRegion (world.cellsOf target) R ↔ ∃ cells ∈ regions, R = {x | x ∈ cells}) ∧
        (∀ cells ∈ regions, cells.Nodup) ∧
        regions.Pairwise (fun cells cells' => ∀ x ∈ cells, x ∉ cells') ∧
        regions.Pairwise (fun earlier later => ∃ i, world.hex i ∈ earlier ∧
          ∀ x ∈ later, ∀ j, world.index? x = some j → i < j) ∧
        ∀ x ∈ world.cellsOf target, ∀ d : Direction, d.step x ∉ world.forbidden target) ∨
      ∃ x ∈ world.cellsOf target, ∃ d : Direction, d.step x ∈ world.forbidden target ∧
        world.components target =
          .error (.hillAdjacency (d.step x).row.toNat (d.step x).col.toNat) := by
  have hfirst : Sweeping world target (Array.replicate world.tiles.size false) [] 0 := by
    refine ⟨Array.size_replicate, fun x => ?_, by simp, .nil, by simp, .nil, by simp⟩
    simp [marked, Array.getElem?_replicate]
  rw [components, List.range_eq_range']
  rcases hfirst.componentsFrom hworld (Nat.zero_add _) with ⟨seen, regions, hregions, hend⟩ | hfails
  · left
    -- All cells of the kind belong to regions that have been found.
    have hall : ∀ x ∈ world.cellsOf target, ∃ cells ∈ regions, x ∈ cells := by
      intro x hx
      obtain ⟨i, hi⟩ := exists_index?_of_mem_cellsOf hx
      have hhex := Frame.hex_of_index? hi
      have hmarked := hend.visited i (Frame.lt_of_index? hi) (hhex ▸ hx)
      rw [hhex, hend.mem_marked_iff] at hmarked
      simpa using hmarked
    have hregion : ∀ cells ∈ regions,
        cells.Nodup ∧ Hex.IsRegion (world.cellsOf target) {x | x ∈ cells} ∧
          ∀ x ∈ cells, ∀ d : Direction, d.step x ∉ world.forbidden target :=
      fun cells hcells => hend.region cells (List.mem_reverse.2 hcells)
    refine ⟨regions, hregions, fun R => ⟨fun hR => ?_, ?_⟩,
      fun cells hcells => (hregion cells hcells).1, ?_, List.pairwise_reverse.1 hend.ordered,
      fun x hx => ?_⟩
    · obtain ⟨x, hx⟩ := hR.nonempty
      obtain ⟨cells, hcells, hxc⟩ := hall x (hR.subset hx)
      exact ⟨cells, hcells, hR.eq_of_common (hregion cells hcells).2.1 hx hxc⟩
    · rintro ⟨cells, hcells, rfl⟩
      exact (hregion cells hcells).2.1
    · refine (List.pairwise_reverse.1 hend.disjoint).imp ?_
      exact fun h x hx hx' => h x hx' hx
    · obtain ⟨cells, hcells, hxc⟩ := hall x hx
      exact (hregion cells hcells).2.2 x hxc
  · exact Or.inr hfails

end WorldMap

end Formicary
