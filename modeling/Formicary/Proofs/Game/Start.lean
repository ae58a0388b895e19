import Formicary.Proofs.Board.Replay
import Formicary.Proofs.Game.Constancy
import Formicary.Proofs.Game.Occupancy

/-!
# The start of a game

On a board where nobody stands, `Game.start` puts one ant on every hill cell: the ants come in the
order of the cells (`ants_start`), and board and ants agree from the first (`agrees_start`). With
what the elementary changes keep, this gives the census of every reachable state
(`Reachable.agrees`, `Reachable.badge?`).
-/

namespace Formicary

namespace Game

variable {board : Board} {ants : Array Ant} {i : Nat} {first game : Game}

/-- Whether an ant hatches is decided by the hills. -/
theorem hatch_eq (board : Board) (ants : Array Ant) (i : Nat) :
    hatch (board, ants) i =
      match board.hillColor? i with
      | some color => (board.modify i (·.setAnt ants.size), ants.push (.spawn ants.size color i))
      | none => (board, ants) := rfl

/-- Hatching does not change the ground. -/
theorem ground_hatch (board : Board) (ants : Array Ant) (i : Nat) :
    (hatch (board, ants) i).1.ground = board.ground := by
  rw [hatch_eq]
  split
  · exact Board.ground_modify _ _ (Cell.ground_setAnt · _)
  · rfl

/-- Hatching from a cell does not touch the other cells. -/
theorem cell?_hatch_of_ne {j : Nat} (h : i ≠ j) :
    (hatch (board, ants) i).1.cell? j = board.cell? j := by
  rw [hatch_eq]
  split
  · rw [Board.cell?_modify, if_neg h]
  · rfl

/-- The ants that hatch from some cells come after those that are there already, one for each
hill cell, in the order of the cells. -/
theorem ants_foldl_hatch (cells : List Nat) (board : Board) (ants : Array Ant) :
    (cells.foldl hatch (board, ants)).2.toList =
      ants.toList ++ ((board.hillsAmong cells).zipIdx ants.size).map fun ((i, color), id) =>
        Ant.spawn id color i := by
  induction cells generalizing board ants with
  | nil => simp [Board.hillsAmong]
  | cons i cells ih =>
    have hsame : (hatch (board, ants) i).1.hillsAmong cells = board.hillsAmong cells := by
      rw [Board.hillsAmong, Board.hillColor?_eq_of_ground (ground_hatch board ants i),
        Board.hillsAmong]
    rw [List.foldl_cons, ih, hsame, hatch_eq]
    cases hcolor : board.hillColor? i <;> simp [Board.hillsAmong, hcolor]

/-- When a new ant is added, an ant is one of those before or the new one. -/
theorem getElem?_push_iff {newborn ant : Ant} {id : Nat} :
    (ants.push newborn)[id]? = some ant ↔
      ants[id]? = some ant ∨ id = ants.size ∧ ant = newborn := by
  rw [Array.getElem?_push]
  split
  next hid =>
    subst hid
    simp [eq_comm]
  next hid => simp [hid]

/-- A new ant on an empty cell that is no rock, named by that cell, keeps the agreement. -/
theorem agrees_push (h : board.Agrees ants) {cell : Cell} (hcell : board.cell? i = some cell)
    (hrock : cell.isRock = false) (hempty : cell.ant = none) {newborn : Ant}
    (halive : newborn.alive = true) (hpos : newborn.pos = i) :
    (board.modify i (·.setAnt ants.size)).Agrees (ants.push newborn) where
  occupant_iff := by
    intro j cell' id hcell'
    simp only [getElem?_push_iff]
    rw [Board.cell?_modify] at hcell'
    by_cases hj : i = j
    · -- The cell names the new ant, and nobody else was there.
      subst hj
      rw [if_pos rfl, hcell, Option.map_some, Option.some.injEq] at hcell'
      rw [← hcell', Cell.ant_setAnt hrock, Option.some.injEq]
      constructor
      · rintro rfl
        exact ⟨newborn, Or.inr ⟨rfl, rfl⟩, halive, hpos⟩
      · rintro ⟨ant, hold | ⟨rfl, -⟩, hlives, hthere⟩
        · have hname := (h.occupant_iff hcell).2 ⟨ant, hold, hlives, hthere⟩
          simp [hempty] at hname
        · rfl
    · rw [if_neg hj] at hcell'
      rw [h.occupant_iff hcell']
      constructor
      · rintro ⟨ant, hant, hrest⟩
        exact ⟨ant, Or.inl hant, hrest⟩
      · rintro ⟨ant, hold | ⟨-, rfl⟩, hlives, hthere⟩
        · exact ⟨ant, hold, hlives, hthere⟩
        · exact absurd (hpos.symm.trans hthere) hj
  grounded := by
    intro id ant hant
    have hgrounded : ∃ cell, board.cell? ant.pos = some cell ∧ cell.isRock = false := by
      rcases getElem?_push_iff.1 hant with hold | ⟨-, rfl⟩
      · exact h.grounded hold
      · exact ⟨cell, hpos ▸ hcell, hrock⟩
    obtain ⟨own, hown, hown'⟩ := hgrounded
    have hground := board.ground_modify i (Cell.ground_setAnt · ants.size)
    obtain ⟨own', hsome, hsame⟩ := Board.exists_cell?_of_ground hground hown
    exact ⟨own', hsome, (Cell.isRock_eq_of_ground hsame).trans hown'⟩
  empty_handed := by
    intro id ant hant hdead
    rcases getElem?_push_iff.1 hant with hold | ⟨-, rfl⟩
    · exact h.empty_handed hold hdead
    · rw [halive] at hdead
      cases hdead

/-- An ant that hatches on a cell where nobody stands is named by that cell. -/
theorem agrees_hatch (h : board.Agrees ants)
    (hempty : ∀ cell, board.cell? i = some cell → cell.ant = none) :
    (hatch (board, ants) i).1.Agrees (hatch (board, ants) i).2 := by
  rw [hatch_eq]
  cases hcolor : board.hillColor? i with
  | none => exact h
  | some color =>
    obtain ⟨cell, hcell, hterrain⟩ := Option.bind_eq_some_iff.1 hcolor
    have hrock : cell.isRock = false := by
      -- Rock is nobody's hill.
      rw [Cell.isRock, decide_eq_false_iff_not]
      intro hrock
      simp [hrock, Terrain.hillColor?] at hterrain
    exact agrees_push h hcell hrock (hempty cell hcell) rfl rfl

/-- Hatching from different cells where nobody stands leads to agreement. -/
theorem agrees_foldl_hatch {cells : List Nat} (hnodup : cells.Nodup) (h : board.Agrees ants)
    (hempty : ∀ i ∈ cells, ∀ cell, board.cell? i = some cell → cell.ant = none) :
    (cells.foldl hatch (board, ants)).1.Agrees (cells.foldl hatch (board, ants)).2 := by
  induction cells generalizing board ants with
  | nil => exact h
  | cons i cells ih =>
    obtain ⟨hi, hnodup⟩ := List.nodup_cons.1 hnodup
    refine ih hnodup (agrees_hatch h (hempty i List.mem_cons_self)) ?_
    -- The cells still to come are others, so nobody stands there yet.
    intro j hj cell' hcell'
    have hne : i ≠ j := fun hij => hi (hij ▸ hj)
    refine hempty j (List.mem_cons_of_mem i hj) cell' ?_
    exact (cell?_hatch_of_ne hne).symm.trans hcell'

variable {redBrain blackBrain : Brain} {rng : Rng}

/-- At the start there is one ant for every hill cell, in the order of the cells. -/
theorem ants_start (redBrain blackBrain : Brain) (board : Board) (rng : Rng) :
    (start redBrain blackBrain board rng).ants.toList =
      board.hills.zipIdx.map fun ((i, color), id) => Ant.spawn id color i := by
  simpa [start, Board.hills] using
    ants_foldl_hatch (List.range board.cells.size) board #[]

/-- At the start an ant is as it hatched on the hill cell with its number. -/
theorem ant?_start (redBrain blackBrain : Brain) (board : Board) (rng : Rng) (id : Nat) :
    (start redBrain blackBrain board rng).ant? id =
      board.hills[id]?.map fun hill => Ant.spawn id hill.2 hill.1 := by
  rw [ant?, ← Array.getElem?_toList, ants_start, List.getElem?_map, List.getElem?_zipIdx,
    Option.map_map]
  cases board.hills[id]? with
  | none => rfl
  | some hill => simp

/-- At the start an ant stands on a hill cell of its colony. -/
theorem hill_of_start {id : Nat} {ant : Ant}
    (hant : (start redBrain blackBrain board rng).ant? id = some ant) :
    board.hillColor? ant.pos = some ant.color := by
  rw [ant?_start] at hant
  obtain ⟨hill, hhill, rfl⟩ := Option.map_eq_some_iff.1 hant
  exact Board.mem_hills_iff.1 (List.mem_of_getElem? hhill)

/-- What is kept when an ant is put on a cell is kept by the start. -/
theorem keep_start {P : Board → Prop}
    (hset : ∀ {board : Board} (i id : Nat), P board → P (board.modify i (·.setAnt id)))
    (hboard : P board) : P (start redBrain blackBrain board rng).board := by
  have hhatch (spawned : Board × Array Ant) (i : Nat) (h : P spawned.1) :
      P (hatch spawned i).1 := by
    rw [hatch_eq]
    split
    · exact hset i _ h
    · exact h
  have hfold (cells : List Nat) (spawned : Board × Array Ant) (h : P spawned.1) :
      P (cells.foldl hatch spawned).1 := by
    induction cells generalizing spawned with
    | nil => exact h
    | cons i cells ih => exact ih _ (hhatch spawned i h)
  exact hfold _ (board, #[]) hboard

/-- The start does not change the ground. -/
theorem ground_start (redBrain blackBrain : Brain) (board : Board) (rng : Rng) :
    (start redBrain blackBrain board rng).board.ground = board.ground :=
  keep_start (P := fun started => started.ground = board.ground)
    (fun i id h => (Board.ground_modify _ i (Cell.ground_setAnt · id)).trans h) rfl

/-- On a board where nobody stands a game starts in agreement. -/
theorem agrees_start (hvacant : board.Vacant) :
    (start redBrain blackBrain board rng).Agrees := by
  refine agrees_foldl_hatch List.nodup_range ?_ fun i _ cell hcell => hvacant hcell
  exact {
    occupant_iff := by
      intro i cell id hcell
      simp [hvacant hcell]
    grounded := by
      intro id ant hant
      simp at hant
    empty_handed := by
      intro id ant hant
      simp at hant }

/-- The start puts nothing on rock. -/
theorem rockBare_start (hbare : board.RockBare) :
    (start redBrain blackBrain board rng).board.RockBare :=
  keep_start (fun i id h => h.modify i (Cell.ground_setAnt · id)
    fun cell hrock _ => cell.setAnt_of_isRock hrock id) hbare

/-- The start touches neither food nor markers. -/
theorem deserted_start (redBrain blackBrain : Brain) (board : Board) (rng : Rng) :
    (start redBrain blackBrain board rng).board.deserted = board.deserted :=
  keep_start (P := fun started => started.deserted = board.deserted) (fun i id h =>
    (Board.deserted_modify_eq_self _ i (Cell.removeAnt_setAnt · id)).trans h) rfl

/-- What lies on a cell does not change when the ants hatch. -/
theorem cell?_start_removeAnt (redBrain blackBrain : Brain) (board : Board) (rng : Rng) (i : Nat) :
    ((start redBrain blackBrain board rng).board.cell? i).map Cell.removeAnt =
      (board.cell? i).map Cell.removeAnt := by
  rw [← Board.cell?_deserted, deserted_start, Board.cell?_deserted]

/-- Board and ants agree in every reachable state. -/
theorem Reachable.agrees (h : Reachable first game) (hfirst : first.Agrees) : game.Agrees :=
  h.keep (P := Agrees) hfirst (fun hchange ih => hchange.agrees ih) (fun _ ih => ih) fun _ ih => ih

/-- In every reachable state the ant with a number carries this number and the colour of the hill
cell with this number. -/
theorem Reachable.badge? (h : Reachable (start redBrain blackBrain board rng) game) (id : Nat) :
    (game.ant? id).map Ant.badge = board.hills[id]?.map fun hill => (id, hill.2) := by
  rw [← badges_getElem?, h.badges, badges_getElem?, ant?_start, Option.map_map]
  rfl

/-! ### A siege

A small game to look at: five red ants and a black one on a board of four rows. All red ants walk
east, and by doing so the first two of them close in on the black ant. -/

/-- Two rows of red hills around a black one. -/
def siegeWorld : WorldMap where
  width := 5
  height := 4
  tiles :=
    #[.clear, .clear, .clear, .clear, .clear,
      .clear, .hill .red, .clear, .clear, .clear,
      .hill .red, .clear, .hill .black, .hill .red, .food 2,
      .clear, .hill .red, .hill .red, .clear, .clear]

/-- The game of red walkers against a black ant that turns on the spot. -/
def siege : Game := start ⟨#[.move 0 0]⟩ ⟨#[.turn .left 0]⟩ (.ofMap siegeWorld) (.ofSeed 0)

end Game

end Formicary
