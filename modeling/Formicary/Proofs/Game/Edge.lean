import Formicary.Proofs.Board.Margin
import Formicary.Proofs.Game.Hills

/-!
# The edge of the world is like rock

A world need not be enclosed by rock. Where it ends, an ant finds nothing to step on, senses rock
and has no enemy, and so it is at a cell of rock too, as rock is always bare. So it makes no
difference whether there is more rock around the world: in a margin of rock the same game is
played at another place (`run_inRock`).
-/

namespace Formicary

namespace Game

variable {game game' : Game} {world : WorldMap} {margin : Margin}

/-- A game on a world and a game on the world in a margin of rock. -/
structure Framed (world : WorldMap) (margin : Margin) (game game' : Game) : Prop where
  /-- The first game agrees about who stands where. -/
  agrees : game.Agrees
  /-- The first game is played on the world. -/
  laidOut : game.board.LaidOut world
  /-- The second game is played on the world in the margin. -/
  laidOut' : game'.board.LaidOut (world.inRock margin)
  /-- In the second game there is nothing on rock. -/
  rockBare' : game'.board.RockBare
  /-- The brains are the same. -/
  brain_eq : game'.brain = game.brain

theorem Framed.count (h : Framed world margin game game') :
    Framed world margin { game with ticks := game.ticks + 1 }
      { game' with ticks := game'.ticks + 1 } :=
  ⟨h.agrees, h.laidOut, h.laidOut', h.rockBare', h.brain_eq⟩

theorem Framed.observe (h : Framed world margin game game') (recorder recorder' : Recorder) :
    Framed world margin (game.observe recorder) (game'.observe recorder') :=
  ⟨h.agrees, h.laidOut, h.laidOut', h.rockBare', h.brain_eq⟩

/-- Cells of the world are compared with cells in the margin. -/
def framing (world : WorldMap) (margin : Margin) : Comparison :=
  (margin.transfer world.toFrame).comparison (Set.Iio (world.height * world.width))

/-- Ants of the world are on cells of the world. -/
theorem Framed.pos_lt {id : Nat} {ant : Ant} (h : Framed world margin game game')
    (hant : game.ant? id = some ant) : ant.pos < world.height * world.width := by
  obtain ⟨cell, hcell, -⟩ := h.agrees.grounded hant
  exact h.laidOut.lt_of_cell? hcell

/-- A neighbour in the world is the neighbour in the margin, and where the world ends there is bare
rock in the margin or nothing. -/
theorem Framed.meets {i : Nat} (h : Framed world margin game game')
    (hi : i < world.height * world.width) (d : Direction) :
    (framing world margin).Meets game'.board (game.board.neighbor? i d)
      (game'.board.neighbor? (margin.place world.toFrame i) d) := by
  have hlink {j : Nat} : game.board.neighbor? i d = some j ↔
      world.index? (d.step (world.hex i)) = some j := by
    rw [h.laidOut.wired.neighbor?_eq_some_iff, h.laidOut.toFrame_eq]
    exact and_iff_right hi
  have hlink' {k : Nat} : game'.board.neighbor? (margin.place world.toFrame i) d = some k ↔
      (world.inRock margin).index? (margin.shift (d.step (world.hex i))) = some k := by
    rw [h.laidOut'.wired.neighbor?_eq_some_iff, h.laidOut'.toFrame_eq,
      Board.toFrame_inRock, margin.hex_place hi, margin.step_shift]
    exact and_iff_right (Board.lt_place hi)
  -- The world goes on, or it ends here; then the margin may end as well, or go on as rock.
  cases hinner : world.index? (d.step (world.hex i)) with
  | some j =>
    rw [hlink.2 hinner, hlink'.2 (margin.index?_shift hinner)]
    exact .cell (Frame.lt_of_index? hinner)
  | none =>
    have hnone : game.board.neighbor? i d = none :=
      Option.eq_none_iff_forall_ne_some.2 fun j hj => by simp [hlink.1 hj] at hinner
    rw [hnone]
    cases houter : game'.board.neighbor? (margin.place world.toFrame i) d with
    | none => exact .missing
    | some k =>
      have hk := hlink'.1 houter
      obtain ⟨cell', hcell'⟩ := h.laidOut'.exists_cell? (Frame.lt_of_index? hk)
      have hrock : cell'.isRock = true := by
        rw [Cell.isRock, h.laidOut'.terrain_eq hcell',
          Board.tiles_inRock_of_index? hinner hk]
        rfl
      exact .rock hcell' hrock (h.rockBare' hcell' hrock)

/-- A game on a world and the game in the margin stay alike. -/
theorem lasting_framing (world : WorldMap) (margin : Margin) :
    (framing world margin).Lasting (Framed world margin) where
  left h hchange :=
    { agrees := hchange.agrees h.agrees
      laidOut := hchange.ground.trans h.laidOut
      laidOut' := h.laidOut'
      rockBare' := h.rockBare'
      brain_eq := h.brain_eq.trans hchange.brain.symm }
  right h hchange :=
    { agrees := h.agrees
      laidOut := h.laidOut
      laidOut' := hchange.ground.trans h.laidOut'
      rockBare' := hchange.rockBare h.rockBare'
      brain_eq := hchange.brain.trans h.brain_eq }
  place_injOn := (margin.strictMonoOn_place world.toFrame).injOn
  pos_mem h _ hant _ := h.pos_lt hant
  occupant_mem _ _ _ _ := Set.mem_univ _
  brain_eq h _ _ := congrFun h.brain_eq _
  neighbor h _ _ hant _ d := h.meets (h.pos_lt hant) d
  record := Transfer.record_comparison
  draw _ halike _ _ := Transfer.draw_comparison halike.aside ..

/-! ### Starts and scores -/

/-- Every hill cell in the margin has its place there. -/
theorem coversHills_framing {board board' : Board} (hlaid : board.LaidOut world)
    (hlaid' : board'.LaidOut (world.inRock margin)) :
    (framing world margin).CoversHills board board' where
  strictMonoOn := margin.strictMonoOn_place world.toFrame
  mem {i color} hcolor := by
    obtain ⟨cell, hcell, -⟩ := Option.bind_eq_some_iff.1 hcolor
    exact hlaid.lt_of_cell? hcell
  exists_mem {k color} hcolor := by
    obtain ⟨cell, hcell, hterrain⟩ := Option.bind_eq_some_iff.1 hcolor
    refine Board.exists_place (hlaid'.lt_of_cell? hcell) fun hrock => ?_
    -- Rock is nobody's hill.
    rw [hlaid'.terrain_eq hcell, hrock] at hterrain
    cases hterrain

variable {redBrain blackBrain : Brain} {rng : Rng}

theorem framed_start (world : WorldMap) (margin : Margin) :
    Framed world margin (start redBrain blackBrain (.ofMap world) rng)
      (start redBrain blackBrain (.ofMap (world.inRock margin)) rng) where
  agrees := agrees_start (Board.vacant_ofMap world)
  laidOut := ground_start ..
  laidOut' := ground_start ..
  rockBare' := rockBare_start (Board.rockBare_ofMap _)
  brain_eq := by
    funext color
    cases color <;> rfl

/-- A game in the margin starts like the game without it. -/
theorem alike_start_framing (world : WorldMap) (margin : Margin) :
    (framing world margin).Alike (start redBrain blackBrain (.ofMap world) rng)
      (start redBrain blackBrain (.ofMap (world.inRock margin)) rng) :=
  (coversHills_framing rfl rfl).alike_start (Board.vacant_ofMap _) (Board.vacant_ofMap _)
    (fun _ hi => Board.cell?_ofMap_inRock hi) ⟨rfl, (Transfer.recorder_empty _).symm⟩

/-- The games stay alike, whoever listens. -/
theorem alike_run_framing (h : Framed world margin game game')
    (halike : (framing world margin).Alike game game') (n : Nat) :
    Framed world margin (game.run n) (game'.run n) ∧
      (framing world margin).Alike (game.run n) (game'.run n) := by
  refine run_related (R := fun game game' => Framed world margin game game' ∧
    (framing world margin).Alike game game') ?_ ?_ ?_ ⟨h, halike⟩ n
  · rintro game game' ⟨-, halike⟩
    exact halike.size_ants fun id => Set.mem_univ id
  · rintro game game' id ⟨h, halike⟩
    exact ⟨(lasting_framing world margin).related_stepAnt h id,
      (lasting_framing world margin).stepAnt h halike (Set.mem_univ id)⟩
  · rintro game game' ⟨h, halike⟩
    exact ⟨h.count, halike.count⟩

/-- Whether a world goes on as bare rock beyond its edge or ends there makes no difference: after
every number of ticks, with whatever recorder listening from some tick on, the game on the world in
a margin of rock has the ants, the food, the markers and the events of the game on the world, moved
by the margin, and the same generator and score. -/
theorem run_inRock (redBrain blackBrain : Brain) (world : WorldMap) (margin : Margin) (rng : Rng)
    (recorder : Recorder) (m n : Nat) :
    let moved := margin.transfer world.toFrame
    let game := (((start redBrain blackBrain (.ofMap world) rng).run m).observe recorder).run n
    let framed := (((start redBrain blackBrain (.ofMap (world.inRock margin)) rng).run m).observe
      (moved.recorder recorder)).run n
    framed.ants = game.ants.map moved.ant ∧ framed.rng = game.rng ∧ framed.score = game.score ∧
      framed.recorder = moved.recorder game.recorder ∧
      ∀ i < world.height * world.width,
        (world.inRock margin).hex (moved.place i) = margin.shift (world.hex i) ∧
          ∃ cell, game.board.cell? i = some cell ∧
            framed.board.cell? (moved.place i) = some (moved.cell cell) := by
  intro moved game framed
  obtain ⟨hearly, halikeEarly⟩ :=
    alike_run_framing (framed_start world margin) (alike_start_framing world margin) m
  obtain ⟨h, halike⟩ : Framed world margin game framed ∧
      (framing world margin).Alike game framed :=
    alike_run_framing (hearly.observe recorder (moved.recorder recorder))
      (halikeEarly.observe ⟨halikeEarly.aside.1, rfl⟩) n
  have hteam (color : Color) : framed.teamScore color = game.teamScore color :=
    (coversHills_framing h.laidOut h.laidOut').teamScore_eq halike (fun id => Set.mem_univ id) color
  refine ⟨halike.ants_eq fun id => Set.mem_univ id, halike.aside.1,
    congrArg₂ Score.mk (hteam .red) (hteam .black), halike.aside.2, fun i hi => ?_⟩
  obtain ⟨cell, hcell⟩ := h.laidOut.exists_cell? hi
  refine ⟨margin.hex_place hi, cell, hcell, ?_⟩
  exact (halike.cell?_eq hi).trans (congrArg (Option.map moved.cell) hcell)

end Game

end Formicary
