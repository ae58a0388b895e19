import Formicary.Proofs.Game.Hills
import Formicary.Proofs.Game.Renaming

/-!
# Both colonies are treated alike

Let the colonies change their colours: the hills of the world, the brains, the ants, the markers.
Then the game is the same game with the colours changed, tick by tick (`run_recolor`). Nothing in
it favours one of the colonies but the order in which their ants hatch, and that is an order of
cells, not of colours.

Single steps have the same property in every state, reachable or not (`stepAnt_recolor`): to change
the colours is a transfer of the whole game (`entire_exchange`).
-/

namespace Formicary

/-! ### Other colours -/

/-- The colonies have changed their colours, and nothing else is different. -/
def Transfer.exchange : Transfer where
  color := Color.other
  color_color := Color.other_other

/-- The tile in the other colour, if it has one. -/
def Tile.recolor : Tile → Tile
  | .hill color => .hill color.other
  | tile => tile

/-- The world with the hills exchanged. -/
def WorldMap.recolor (world : WorldMap) : WorldMap :=
  { world with tiles := world.tiles.map Tile.recolor }

/-- The board with hills and markers exchanged. -/
def Board.recolor (board : Board) : Board :=
  { board with cells := board.cells.map Transfer.exchange.cell }

/-- The game with the colonies exchanged. -/
def Game.recolor (game : Game) : Game where
  board := game.board.recolor
  ants := game.ants.map Transfer.exchange.ant
  redBrain := game.blackBrain
  blackBrain := game.redBrain
  rng := game.rng
  ticks := game.ticks
  recorder := Transfer.exchange.recorder game.recorder

/-- The score with the colonies exchanged. -/
def Score.recolor (score : Score) : Score := ⟨score.black, score.red⟩

/-- If the colonies change their colours, the winner does. -/
theorem Score.winner_recolor (score : Score) :
    score.recolor.winner = score.winner.map Color.other := by
  obtain ⟨red, black⟩ := score
  rw [winner, winner, recolor]
  by_cases hred : black.food < red.food
  · have hnot : ¬red.food < black.food := UInt32.lt_asymm hred
    simp [hred, hnot, Color.other]
  · by_cases hblack : red.food < black.food
    · simp [hred, hblack, Color.other]
    · simp [hred, hblack]

namespace Board

variable {board : Board} {i : Nat}

theorem cell?_recolor (board : Board) (i : Nat) :
    board.recolor.cell? i = (board.cell? i).map Transfer.exchange.cell :=
  Array.getElem?_map ..

theorem hillColor?_recolor (board : Board) (i : Nat) :
    board.recolor.hillColor? i = (board.hillColor? i).map Color.other := by
  rw [hillColor?, cell?_recolor, hillColor?]
  cases board.cell? i with
  | none => rfl
  | some cell => exact Transfer.exchange.hillColor?_terrain cell.terrain

theorem recolor_modify (board : Board) (i : Nat) {f : Cell → Cell}
    (hf : ∀ cell, f (Transfer.exchange.cell cell) = Transfer.exchange.cell (f cell)) :
    board.recolor.modify i f = (board.modify i f).recolor := by
  have hcells : (board.cells.map Transfer.exchange.cell).modify i f =
      (board.cells.modify i f).map Transfer.exchange.cell := by
    refine Array.ext_getElem? fun j => ?_
    simp only [Array.getElem?_modify, Array.getElem?_map]
    split
    · simp only [Option.map_map, Function.comp_def, hf]
    · rfl
  simp only [recolor, modify, hcells]

/-- The board of the world with the hills exchanged. -/
theorem ofMap_recolor (world : WorldMap) : ofMap world.recolor = (ofMap world).recolor := by
  have hcell (i : Nat) : layCell world.recolor i = Transfer.exchange.cell (layCell world i) := by
    have htile (row col : Nat) : world.recolor.tileAt row col = (world.tileAt row col).recolor := by
      simp only [WorldMap.tileAt, WorldMap.recolor, Array.getD_eq_getD_getElem?,
        Array.getElem?_map]
      exact Option.getD_map Tile.recolor .rock _
    have hhex : world.recolor.hex i = world.hex i := rfl
    simp only [layCell, hhex, htile]
    cases world.tileAt (world.hex i).row.toNat (world.hex i).col.toNat <;> rfl
  simp only [ofMap, recolor, Array.map_map, Function.comp_def, ← hcell]
  rfl

end Board

namespace Game

variable {game game' : Game}

/-! ### Steps -/

theorem entire_exchange : (Transfer.exchange.comparison .univ).Entire where
  cells i := Set.mem_univ i
  ants id := Set.mem_univ id
  place_eq _ := rfl
  links_eq _ _ _ := rfl
  record := Transfer.record_comparison
  draw := by
    rintro rng _ recorder _ ⟨rfl, rfl⟩ bound
    exact ⟨⟨rfl, rfl⟩, rfl⟩

/-- A game is another one in other colours if it is the same but for the colours. -/
theorem eq_recolor_iff :
    game' = game.recolor ↔ (Transfer.exchange.comparison .univ).Same game game' := by
  constructor
  · rintro rfl
    refine ⟨⟨fun _ => Array.getElem?_map .., fun _ => Board.cell?_recolor .., rfl, rfl⟩, rfl, ?_,
      rfl⟩
    intro color
    cases color <;> rfl
  · intro h
    have hboard : game'.board = game.board.recolor :=
      h.board_eq entire_exchange.cells entire_exchange.place_eq
    have hants : game'.ants = game.ants.map Transfer.exchange.ant :=
      h.alike.ants_eq entire_exchange.ants
    have hred : game'.redBrain = game.blackBrain := h.brain_eq .black
    have hblack : game'.blackBrain = game.redBrain := h.brain_eq .red
    obtain ⟨hrng, hrecorder⟩ := h.alike.aside
    have hticks := h.ticks_eq
    cases game'
    simp_all only [recolor]

/-- In every state, an ant takes the same step in other colours. -/
theorem stepAnt_recolor (game : Game) (id : Nat) :
    game.recolor.stepAnt id = (game.stepAnt id).recolor :=
  eq_recolor_iff.2 ((eq_recolor_iff.1 rfl).stepAnt entire_exchange id)

/-- Any number of ticks is the same in other colours. -/
theorem recolor_run (game : Game) (n : Nat) : game.recolor.run n = (game.run n).recolor :=
  eq_recolor_iff.2 ((eq_recolor_iff.1 rfl).run entire_exchange n)

/-! ### Scores -/

/-- The colonies change their places in the score. -/
theorem score_recolor (game : Game) : game.recolor.score = game.score.recolor := by
  have hcovers : (Transfer.exchange.comparison .univ).CoversHills game.board game.recolor.board :=
    { strictMonoOn := strictMonoOn_id
      mem := fun _ => Set.mem_univ _
      exists_mem := fun _ => ⟨_, Set.mem_univ _, rfl⟩ }
  have hteam (color : Color) : game.recolor.teamScore color.other = game.teamScore color :=
    hcovers.teamScore_eq (eq_recolor_iff.1 rfl).alike (fun id => Set.mem_univ id) color
  exact congrArg₂ Score.mk (hteam .black) (hteam .red)

/-! ### Games -/

/-- What has hatched, in other colours. -/
def recolorSpawned (spawned : Board × Array Ant) : Board × Array Ant :=
  (spawned.1.recolor, spawned.2.map Transfer.exchange.ant)

/-- On every hill cell hatches the same ant in another colour. -/
theorem hatch_recolorSpawned (spawned : Board × Array Ant) (i : Nat) :
    hatch (recolorSpawned spawned) i = recolorSpawned (hatch spawned i) := by
  obtain ⟨board, ants⟩ := spawned
  rw [recolorSpawned, hatch_eq, hatch_eq, Board.hillColor?_recolor]
  cases board.hillColor? i with
  | none => rfl
  | some color =>
    have hentered : board.recolor.modify i (·.setAnt ants.size) =
        (board.modify i (·.setAnt ants.size)).recolor :=
      board.recolor_modify i fun cell => Transfer.exchange.cell_setAnt cell ants.size
    simp only [Option.map_some, Array.size_map, hentered, recolorSpawned, Array.map_push]
    rfl

/-- A game starts in other colours as it starts. -/
theorem start_recolor (redBrain blackBrain : Brain) (board : Board) (rng : Rng) :
    start blackBrain redBrain board.recolor rng =
      (start redBrain blackBrain board rng).recolor := by
  have hsize : board.recolor.cells.size = board.cells.size := Array.size_map
  -- Hatching commutes with the change of colours, cell by cell, from nobody on.
  have hnone : recolorSpawned (board, #[]) = (board.recolor, #[]) := by
    rw [recolorSpawned, Array.map_empty]
  have hhatched : (List.range board.cells.size).foldl hatch (recolorSpawned (board, #[])) =
      recolorSpawned ((List.range board.cells.size).foldl hatch (board, #[])) :=
    List.foldl_hom recolorSpawned hatch_recolorSpawned
  rw [start, hsize, ← hnone, hhatched, recolor, start, Transfer.recorder_empty]
  rfl

/-- If the hills are exchanged and the brains are too, the whole game is the same in other colours:
after every number of ticks, with whatever recorder listening from some tick on, and so are the
score and the winner. -/
theorem run_recolor (redBrain blackBrain : Brain) (world : WorldMap) (rng : Rng)
    (recorder : Recorder) (m n : Nat) :
    let game := (((start redBrain blackBrain (.ofMap world) rng).run m).observe recorder).run n
    let exchanged := (((start blackBrain redBrain (.ofMap world.recolor) rng).run m).observe
      (Transfer.exchange.recorder recorder)).run n
    exchanged = game.recolor ∧ exchanged.score = game.score.recolor ∧
      exchanged.score.winner = game.score.winner.map Color.other := by
  intro game exchanged
  have hgame : exchanged = game.recolor := by
    have hobserved (game : Game) : game.recolor.observe (Transfer.exchange.recorder recorder) =
        (game.observe recorder).recolor := rfl
    change (((start blackBrain redBrain (.ofMap world.recolor) rng).run m).observe _).run n = _
    rw [Board.ofMap_recolor, start_recolor, recolor_run, hobserved, recolor_run]
  have hscore : exchanged.score = game.score.recolor := hgame ▸ score_recolor game
  exact ⟨hgame, hscore, hscore ▸ game.score.winner_recolor⟩

end Game

end Formicary
