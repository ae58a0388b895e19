import Formicary.Proofs.Game.Combat
import Formicary.Proofs.Game.Station
import Formicary.Proofs.World.ContestRules
import Formicary.Proofs.World.RoundTrip

/-!
# Nobody is left surrounded

After a move only the mover and the enemies next to it are checked for five enemies around them.
That is enough: whoever else has five enemies around it had them before. The mover is not among
them, or else, by the symmetry of links, the ant would be among the enemies that the mover finds;
so all of them stood where they stand now (`isSurrounded_of_relocate`). The deaths that follow
take enemies away and bring none (`isSurrounded_of_settle`), and no other instruction changes who
stands where (`Step.station_cases`).

`no_ant_left_surrounded` says so for every step in every reachable state. In a game that begins
with nobody surrounded, as every game on a contest world does, nobody ever is.
-/

namespace Formicary

/-- On a contest world no hill is next to rock or to the other hill. -/
theorem WorldMap.secluded_of_parse {world : WorldMap} {source : String}
    (h : parse source true = .ok world) (color : Color) : world.Secluded color := by
  have hworld : world.WellFormed := (drawable_of_parse h).wellFormed
  have hkept := (verdict_checkContest hworld).eq_ok_iff.1 (contest_of_parse h).2
  cases color with
  | red => exact hkept (world.seclusionRule .red) (by simp [contestRules])
  | black => exact hkept (world.seclusionRule .black) (by simp [contestRules])

namespace Game

variable {game game' : Game} {id other dest : Nat} {ant : Ant} {ids : List Nat}

/-! ### Enemies and stations -/

/-- Where an ant finds an enemy is a matter of its station and of the enemy's. -/
theorem enemyToward?_of_station? (h : game.Agrees) (h' : game'.Agrees)
    (hground : game'.board.ground = game.board.ground) {occupant occupant' : Ant}
    (hoccupant : occupant'.station = occupant.station) {d : Direction}
    (hother : game'.station? other = game.station? other)
    (hfound : game'.enemyToward? occupant' d = some other) :
    game.enemyToward? occupant d = some other := by
  obtain ⟨hcolor, hpos, -⟩ : occupant'.color = occupant.color ∧ occupant'.pos = occupant.pos ∧
      occupant'.alive = occupant.alive := by simpa [Ant.station] using hoccupant
  obtain ⟨enemy', henemy', halive', hlink, hne⟩ := (enemyToward?_eq_some_iff h').1 hfound
  rw [station?, henemy', station?, eq_comm, Option.map_some, Option.map_eq_some_iff] at hother
  obtain ⟨enemy, henemy, hstation⟩ := hother
  simp only [Ant.station, Prod.mk.injEq] at hstation
  obtain ⟨hcolorEnemy, hposEnemy, haliveEnemy⟩ := hstation
  refine (enemyToward?_eq_some_iff h).2 ⟨enemy, henemy, haliveEnemy.trans halive', ?_, ?_⟩
  · rw [← Board.neighbor?_eq_of_ground hground, ← hpos, hposEnemy, hlink]
  · rw [hcolorEnemy, ← hcolor]
    exact hne

/-- An ant that has its enemies from another state, and its station too, is surrounded there if it
is surrounded here. -/
theorem isSurrounded_of_station? (h : game.Agrees) (h' : game'.Agrees)
    (hground : game'.board.ground = game.board.ground)
    (hid : game'.station? id = game.station? id)
    (henemies : ∀ other ∈ game'.adjacentEnemies id, game'.station? other = game.station? other)
    (hsurrounded : game'.isSurrounded id = true) : game.isSurrounded id = true := by
  obtain ⟨ant', hant', halive', hcount⟩ := isSurrounded_eq_true_iff.1 hsurrounded
  have hmap := hid
  rw [station?, hant', station?, eq_comm, Option.map_some, Option.map_eq_some_iff] at hmap
  obtain ⟨ant, hant, hstation⟩ := hmap
  have halive : ant.alive = true := by
    have hsame := congrArg (·.2.2) hstation
    exact hsame.trans halive'
  -- In every direction in which it has an enemy here it has one there.
  refine isSurrounded_eq_true_iff.2 ⟨ant, hant, halive, hcount.trans ?_⟩
  rw [adjacentEnemies_eq hant', adjacentEnemies_eq hant, List.length_filterMap_eq_countP,
    List.length_filterMap_eq_countP]
  refine List.countP_mono_left fun d _ hsome => ?_
  obtain ⟨other, hother⟩ := Option.isSome_iff_exists.1 hsome
  have hmem : other ∈ game'.adjacentEnemies id := by
    rw [adjacentEnemies_eq hant']
    exact List.mem_filterMap.2 ⟨d, d.mem_all, hother⟩
  rw [enemyToward?_of_station? h h' hground hstation.symm (henemies other hmem) hother]
  rfl

/-! ### Moves and deaths -/

/-- Checking for deaths surrounds nobody, and it leaves nobody surrounded that is checked. -/
theorem isSurrounded_of_settle (h : game.Agrees)
    (hsurrounded : (game.settle ids).isSurrounded id = true) :
    game.isSurrounded id = true ∧ id ∉ ids := by
  induction ids generalizing game with
  | nil => exact ⟨hsurrounded, List.not_mem_nil⟩
  | cons victim ids ih =>
    rw [settle, List.foldl_cons, checkDeath] at hsurrounded
    split at hsurrounded
    next hdies =>
      obtain ⟨dead, hdead, halive, -⟩ := isSurrounded_eq_true_iff.1 hdies
      obtain ⟨hlater, hnotMem⟩ := ih (h.kill hdead halive) hsurrounded
      obtain ⟨hbefore, hne⟩ := isSurrounded_of_kill h hdead halive hlater
      exact ⟨hbefore, List.not_mem_cons_of_ne_of_not_mem hne hnotMem⟩
    next hlives =>
      obtain ⟨hbefore, hnotMem⟩ := ih h hsurrounded
      refine ⟨hbefore, List.not_mem_cons_of_ne_of_not_mem ?_ hnotMem⟩
      rintro rfl
      exact hlives hbefore

/-- Who is not checked is not touched. -/
theorem ant?_settle_of_notMem (hnotMem : id ∉ ids) : (game.settle ids).ant? id = game.ant? id := by
  induction ids generalizing game with
  | nil => rfl
  | cons victim ids ih =>
    rw [settle, List.foldl_cons, checkDeath]
    refine (ih (List.not_mem_of_not_mem_cons hnotMem)).trans ?_
    split
    · exact ant?_kill_of_ne (List.ne_of_not_mem_cons hnotMem)
    · rfl

/-- Whoever is surrounded after a move and is neither the mover nor an enemy next to it was
surrounded before, and has not changed its station. -/
theorem isSurrounded_of_relocate (hwired : game.board.Wired) (h : game.Agrees)
    (hant : game.ant? id = some ant) (halive : ant.alive = true)
    (hopen : game.openAhead? ant = some dest)
    (hnotMem : other ∉ id :: (game.relocate id ant dest).adjacentEnemies id)
    (hsurrounded : (game.relocate id ant dest).isSurrounded other = true) :
    game.isSurrounded other = true ∧
      (game.relocate id ant dest).station? other = game.station? other := by
  have hne : other ≠ id := List.ne_of_not_mem_cons hnotMem
  have hfar := List.not_mem_of_not_mem_cons hnotMem
  have hmoved : (game.relocate id ant dest).Agrees := h.relocate hant halive hopen
  have hground := ground_relocate game id ant dest
  have hstays {other : Nat} (hne : other ≠ id) :
      (game.relocate id ant dest).station? other = game.station? other := by
    rw [station?, ant?_relocate, if_neg hne.symm, station?]
  refine ⟨isSurrounded_of_station? h hmoved hground (hstays hne) ?_ hsurrounded, hstays hne⟩
  intro enemy henemy
  refine hstays ?_
  -- If the mover were an enemy of the ant, the ant would be one of the mover.
  rintro rfl
  obtain ⟨occupant, hoccupant, hlives, -⟩ := isSurrounded_eq_true_iff.1 hsurrounded
  obtain ⟨d, mover, hmover, -, hpos, hcolor⟩ := (mem_adjacentEnemies_iff hmoved hoccupant).1 henemy
  have hback := (hwired.of_ground hground).neighbor?_opposite hpos
  exact hfar ((mem_adjacentEnemies_iff hmoved hmover).2
    ⟨d.opposite, occupant, hoccupant, hlives, hback, hcolor.symm⟩)

/-- Whoever is surrounded after a step was surrounded before and has kept its station. -/
theorem isSurrounded_of_stepAnt (hwired : game.board.Wired) (h : game.Agrees) (id : Nat)
    (hsurrounded : (game.stepAnt id).isSurrounded other = true) :
    game.isSurrounded other = true ∧ (game.stepAnt id).station? other = game.station? other := by
  have hstep : Reachable game (game.stepAnt id) := .stepAnt id .refl
  have hagrees : (game.stepAnt id).Agrees := hstep.agrees h
  rcases (game.step_stepAnt id).station_cases with
    ⟨ant, dest, hant, halive, hopen, hstation⟩ | hstation
  · have hmoved : (game.relocate id ant dest).Agrees := h.relocate hant halive hopen
    have hsettled : Changes (game.relocate id ant dest)
        ((game.relocate id ant dest).resolveCombat id) := changes_settle ..
    have hresolved : ((game.relocate id ant dest).resolveCombat id).Agrees :=
      hsettled.keep (P := Agrees) (fun hchange ih => hchange.agrees ih) hmoved
    have hground : (game.stepAnt id).board.ground =
        ((game.relocate id ant dest).resolveCombat id).board.ground := by
      refine hstep.ground.trans (Eq.symm ?_)
      exact hsettled.keep (P := fun after => after.board.ground = game.board.ground)
        (fun hchange ih => hchange.ground.trans ih) (ground_relocate game id ant dest)
    -- Back from the end of the step to the deaths, from there to the move, and to the beginning.
    have hlate := isSurrounded_of_station? hresolved hagrees hground (hstation other)
      (fun enemy _ => hstation enemy) hsurrounded
    obtain ⟨hmid, hnotMem⟩ := isSurrounded_of_settle hmoved hlate
    obtain ⟨hearly, hstays⟩ := isSurrounded_of_relocate hwired h hant halive hopen hnotMem hmid
    refine ⟨hearly, (hstation other).trans (Eq.trans ?_ hstays)⟩
    rw [station?, resolveCombat, ant?_settle_of_notMem hnotMem, station?]
  · exact ⟨isSurrounded_of_station? h hagrees hstep.ground (hstation other)
      (fun enemy _ => hstation enemy) hsurrounded, hstation other⟩

/-! ### Games -/

variable {first : Game} {board : Board} {redBrain blackBrain : Brain} {rng : Rng}
  {world : WorldMap}

/-- If nobody is surrounded at the start, nobody is in any reachable state. -/
theorem Reachable.not_isSurrounded (h : Reachable first game) (hwired : first.board.Wired)
    (hagrees : first.Agrees) (hfirst : ∀ id, first.isSurrounded id = false) (id : Nat) :
    game.isSurrounded id = false := by
  induction h generalizing id with
  | refl => exact hfirst id
  | @stepAnt game other hbefore ih =>
    rw [Bool.eq_false_iff]
    intro hsurrounded
    have hearly := (isSurrounded_of_stepAnt (hwired.of_ground hbefore.ground)
      (hbefore.agrees hagrees) other hsurrounded).1
    simp [ih] at hearly
  | count _ ih => exact ih id
  | observe recorder _ ih => exact ih id

/-- Where no hill is next to the other one, nobody is next to an enemy at the start. -/
theorem not_isSurrounded_start (hlaid : board.LaidOut world) (hvacant : board.Vacant)
    (hsecluded : ∀ color, world.Secluded color) (id : Nat) :
    (start redBrain blackBrain board rng).isSurrounded id = false := by
  have hagrees : (start redBrain blackBrain board rng).Agrees := agrees_start hvacant
  have hground := ground_start redBrain blackBrain board rng
  rw [Bool.eq_false_iff]
  intro hsurrounded
  obtain ⟨d, ant, other, enemy, hant, henemy, hpos, hcolor⟩ :=
    exists_enemy_of_isSurrounded hagrees hsurrounded
  rw [Board.neighbor?_eq_of_ground hground] at hpos
  have hstep := hlaid.hex_of_neighbor? hpos
  have hown := hlaid.tile?_of_hillColor? (hill_of_start hant)
  have hfoe := hlaid.tile?_of_hillColor? (hill_of_start henemy)
  -- The cell of the enemy is a hill cell next to a cell of the other hill.
  have htouch := (hsecluded ant.color _ _ hown (Hex.adjacent_step d _)).2
  rw [← hstep, hfoe] at htouch
  refine htouch (congrArg (some ∘ Tile.hill) ?_)
  exact Color.eq_of_ne_of_ne hcolor (Color.other_ne ant.color)

/-- No step leaves an ant alive that is newly surrounded: in every reachable state, whoever lives
after a step of any ant with five enemies or more around it lived before the step, on the same
cell, and had as many around it already. So nobody is ever surrounded in a game that begins with
nobody surrounded, and a game on a contest world begins like this. -/
theorem no_ant_left_surrounded (hwired : board.Wired) (hvacant : board.Vacant) :
    let first := start redBrain blackBrain board rng
    (∀ game, Reachable first game → ∀ id other ant', (game.stepAnt id).ant? other = some ant' →
      ant'.alive = true → surroundLimit ≤ ((game.stepAnt id).adjacentEnemies other).length →
        ∃ ant, game.ant? other = some ant ∧ ant.alive = true ∧ ant.pos = ant'.pos ∧
          surroundLimit ≤ (game.adjacentEnemies other).length) ∧
      ((∀ id, first.isSurrounded id = false) →
        ∀ game, Reachable first game → ∀ id, game.isSurrounded id = false) ∧
      ∀ source world, WorldMap.parse source true = .ok world → board.LaidOut world →
        ∀ id, first.isSurrounded id = false := by
  intro first
  have hagrees : first.Agrees := agrees_start hvacant
  have hwired' : first.board.Wired :=
    hwired.of_ground (ground_start redBrain blackBrain board rng)
  refine ⟨fun game hreach id other ant' hant' halive' hcount => ?_, fun hfirst game hreach => ?_,
    fun source world hparse hlaid => ?_⟩
  · have hsurrounded : (game.stepAnt id).isSurrounded other = true :=
      isSurrounded_eq_true_iff.2 ⟨ant', hant', halive', hcount⟩
    obtain ⟨hbefore, hstation⟩ := isSurrounded_of_stepAnt (hwired'.of_ground hreach.ground)
      (hreach.agrees hagrees) id hsurrounded
    obtain ⟨ant, hant, halive, hcount'⟩ := isSurrounded_eq_true_iff.1 hbefore
    rw [station?, hant', station?, hant, Option.map_some, Option.map_some] at hstation
    simp only [Ant.station, Option.some.injEq, Prod.mk.injEq] at hstation
    exact ⟨ant, hant, halive, hstation.2.1.symm, hcount'⟩
  · exact hreach.not_isSurrounded hwired' hagrees hfirst
  · exact not_isSurrounded_start hlaid hvacant (WorldMap.secluded_of_parse hparse)

/-- A black hill cell in a ring of red ones. -/
def ringWorld : WorldMap where
  width := 3
  height := 3
  tiles :=
    #[.clear, .hill .red, .hill .red,
      .hill .red, .hill .black, .hill .red,
      .clear, .hill .red, .hill .red]

/-- In the ring the black ant is surrounded from the start, and it lives on as long as nobody moves.
In the siege, where nobody is surrounded at the start, nobody is after the first tick. -/
theorem no_ant_left_surrounded_ring :
    let ring := start ⟨#[.turn .left 0]⟩ ⟨#[.turn .left 0]⟩ (.ofMap ringWorld) (.ofSeed 0)
    let black : Ant := { id := 3, color := .black, pos := 4 }
    (ring.stepAnt 0).ant? 3 = some black ∧
      surroundLimit ≤ ((ring.stepAnt 0).adjacentEnemies 3).length ∧
      surroundLimit ≤ (ring.adjacentEnemies 3).length ∧
      (∀ id, siege.isSurrounded id = false) ∧ ∀ id, siege.tick.isSurrounded id = false := by
  intro ring black
  have hring := (no_ant_left_surrounded (Board.wired_ofMap ringWorld)
    (Board.vacant_ofMap ringWorld)).1 ring .refl 0 3
  have hblack : (ring.stepAnt 0).ant? 3 = some black := by decide +kernel
  have hcount : surroundLimit ≤ ((ring.stepAnt 0).adjacentEnemies 3).length := by decide +kernel
  obtain ⟨-, -, -, -, hbefore⟩ := hring _ hblack rfl hcount
  have hsiege : ∀ id, siege.isSurrounded id = false := by
    intro id
    by_cases hid : id < 6
    · revert id
      decide +kernel
    · have hsize : siege.ants.size = 6 := by decide +kernel
      have hnone : siege.ant? id = none := Array.getElem?_eq_none_iff.2 (by omega)
      rw [isSurrounded, hnone]
  have hlater := (no_ant_left_surrounded (Board.wired_ofMap siegeWorld)
    (Board.vacant_ofMap siegeWorld)).2.1 hsiege siege.tick (.tick .refl)
  exact ⟨hblack, hcount, hbefore, hsiege, hlater⟩

end Game

end Formicary
