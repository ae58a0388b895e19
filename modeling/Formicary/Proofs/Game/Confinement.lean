import Formicary.Proofs.Board.Links
import Formicary.Proofs.Game.Start
import Formicary.Proofs.Game.Station
import Formicary.Proofs.Region.Connected

/-!
# Ants keep to their ground

An ant hatches on a hill cell and goes from one cell to the next, never onto rock. So wherever it
is, dead or alive, a way over open ground leads there from the cell on which it hatched
(`Confined`). This holds in every reachable state, together with what it rests on: that the game is
played on the world, and that board and ants agree (`Reachable.enclosed`).
-/

namespace Formicary

namespace Game

variable {world : WorldMap} {game game' first : Game} {board : Board}
  {redBrain blackBrain : Brain} {rng : Rng}

/-- Every ant is where a way over open ground leads from the hill cell on which it hatched. -/
def Confined (world : WorldMap) (game : Game) : Prop :=
  ∀ ⦃id : Nat⦄ ⦃ant : Ant⦄, game.ant? id = some ant →
    ∃ hill, world.hills[id]? = some (hill, ant.color) ∧
      Hex.Joined world.openCells (world.hex hill) (world.hex ant.pos)

/-- The open cell ahead is open ground. -/
theorem joined_of_openAhead? {ant : Ant} {dest : Nat} (hlaid : game.board.LaidOut world)
    (hopen : game.openAhead? ant = some dest) :
    Hex.Joined world.openCells (world.hex ant.pos) (world.hex dest) := by
  obtain ⟨hlink, cell, hcell, havailable⟩ := openAhead?_eq_some_iff.1 hopen
  have hground := (hlaid.mem_openCells_iff hcell).2 (Cell.isAvailable_eq_true_iff.1 havailable).1
  exact .of_adjacent ⟨ant.dir, (hlaid.hex_of_neighbor? hlink).symm⟩ hground

/-- No elementary change takes an ant off its ground. -/
theorem Change.confined (h : Change game game') (hlaid : game.board.LaidOut world)
    (hconfined : game.Confined world) : game'.Confined world := by
  intro id ant' hant'
  obtain ⟨ant, hant, hcolor, hpos, -⟩ := h.ant_cases hant'
  obtain ⟨hill, hhill, hjoined⟩ := hconfined hant
  refine ⟨hill, hcolor ▸ hhill, ?_⟩
  -- The way to where it was is the way to where it is, or goes on by one step.
  rcases hpos with hstays | hopen
  · rwa [hstays]
  · exact hjoined.trans (joined_of_openAhead? hlaid hopen)

/-- At the start every ant is on the hill cell on which it hatches. -/
theorem confined_start (hlaid : board.LaidOut world) :
    (start redBrain blackBrain board rng).Confined world := by
  have hhills : board.hills = world.hills := by
    rw [← Board.hills_ofMap, Board.hills_eq_of_ground hlaid]
  intro id ant hant
  rw [ant?_start, hhills] at hant
  obtain ⟨hill, hhill, rfl⟩ := Option.map_eq_some_iff.1 hant
  exact ⟨hill.1, hhill, .refl⟩

/-- The ants keep to open ground that they can come to from their hills. -/
structure Enclosed (world : WorldMap) (game : Game) : Prop where
  /-- The game is played on the world. -/
  laidOut : game.board.LaidOut world
  /-- The board and the ants agree about who stands where. -/
  agrees : game.Agrees
  /-- Every ant is where it can come to from its hill. -/
  confined : game.Confined world

/-- Every ant is on open ground. -/
theorem Enclosed.mem_openCells {id : Nat} {ant : Ant} (h : game.Enclosed world)
    (hant : game.ant? id = some ant) : world.hex ant.pos ∈ world.openCells := by
  obtain ⟨cell, hcell, hrock⟩ := h.agrees.grounded hant
  exact (h.laidOut.mem_openCells_iff hcell).2 hrock

theorem Change.enclosed (h : Change game game') (henclosed : game.Enclosed world) :
    game'.Enclosed world where
  laidOut := h.ground.trans henclosed.laidOut
  agrees := h.agrees henclosed.agrees
  confined := h.confined henclosed.laidOut henclosed.confined

theorem Changes.enclosed (h : Changes game game') (henclosed : game.Enclosed world) :
    game'.Enclosed world :=
  h.keep (P := Enclosed world) (fun hchange ih => hchange.enclosed ih) henclosed

/-- In every reachable state every ant is on its ground. -/
theorem Reachable.enclosed (h : Reachable first game) (hfirst : first.Enclosed world) :
    game.Enclosed world :=
  h.keep (P := Enclosed world) hfirst (fun hchange ih => hchange.enclosed ih)
    (fun _ ih => ⟨ih.laidOut, ih.agrees, ih.confined⟩)
    fun _ ih => ⟨ih.laidOut, ih.agrees, ih.confined⟩

theorem enclosed_start (redBrain blackBrain : Brain) (world : WorldMap) (rng : Rng) :
    (start redBrain blackBrain (.ofMap world) rng).Enclosed world where
  laidOut := ground_start ..
  agrees := agrees_start (Board.vacant_ofMap world)
  confined := confined_start rfl

end Game

end Formicary
