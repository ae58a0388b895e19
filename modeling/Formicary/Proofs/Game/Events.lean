import Formicary.Proofs.Brain.RoundTrip
import Formicary.Proofs.Game.Account
import Formicary.Proofs.Game.Food
import Formicary.Proofs.Game.Observer

/-!
# The events of a game

The events of a game are a full account of it. Every elementary change has an account
(`Tracked.exists_account_change`), and so have steps, ticks and runs. This rests on what the changes
keep: an ant that marks, lays down food or dies stands on a cell that is no rock, so that the change
is not ignored; its brain names only markers that exist; and no sum of food wraps around, so that
the amount reported is another one than before.

`events_account_of_reachable` states it for every game of two compiled brains, together with what
an observer may rely on besides: the dead stay as they are, and to be observed changes nothing.
-/

namespace Formicary

namespace Game

variable {game game' : Game} {id i : Nat} {ant : Ant} {cell : Cell}

/-! ### Accounts of elementary changes -/

/-- What an account rests on. -/
structure Tracked (world : WorldMap) (stock : Nat) (game : Game) : Prop where
  /-- Board and ants agree, and no sum of food wraps around. -/
  stocked : game.Stocked stock
  /-- The board was made from the world. -/
  laidOut : game.board.LaidOut world
  /-- Both brains are valid. -/
  valid : ∀ color, (game.brain color).Valid

variable {world : WorldMap} {stock : Nat} {instruction : Instruction} {marker : Nat}

/-- Elementary changes keep what accounts rest on. -/
theorem Change.tracked (hchange : Change game game') (h : game.Tracked world stock) :
    game'.Tracked world stock where
  stocked := hchange.stocked h.stocked
  laidOut := hchange.ground.trans h.laidOut
  valid := by
    rw [hchange.brain]
    exact h.valid

/-- The markers of the instructions that ants are at exist. -/
theorem Tracked.marker_lt (h : game.Tracked world stock)
    (hinstruction : game.instruction? id = some instruction)
    (hmarker : instruction.marker? = some marker) : marker < markerCount := by
  obtain ⟨ant, hant, hget⟩ := Option.bind_eq_some_iff.1 hinstruction
  have hmem : instruction ∈ (game.brain ant.color).instructions := Array.mem_of_getElem? hget
  exact ((h.valid ant.color).2.2 instruction hmem).2 marker hmarker

/-- The recorder is told about a cell that exists. -/
theorem recordAt_eq_record (hcell : game.board.cell? i = some cell) (event : Cell → Event) :
    game.recordAt i event = game.record (event cell) := by
  rw [recordAt, hcell]

/-- The account of a change of one cell that is told by one event, where nobody dies. The event is
about the cell after the change, and retelling it does `g` to the cell. -/
theorem Tracked.account_recordAt {changed : Game} {f g : Cell → Cell} {event : Cell → Event}
    (h : game.Tracked world stock) (hcell : game.board.cell? i = some cell)
    (hboard : changed.board = game.board.modify i f)
    (hrecorder : changed.recorder = game.recorder) (hlives : SameLives game changed)
    (hlook : (f cell).removeAnt = g cell.removeAnt)
    (hreplay : ∀ board : Board,
      board.replay (event (f cell)) = board.modifyAt cell.row cell.col g)
    (hvictim : (event (f cell)).victim? = none)
    (hfood : ∀ row col food, event (f cell) = .foodChanged row col food →
      row = cell.row ∧ col = cell.col ∧ cell.food ≠ food) :
    Account game [event (f cell)] (changed.recordAt i event) := by
  have hchanged : changed.board.cell? i = some (f cell) := by
    rw [hboard, Board.cell?_modify, if_pos rfl, hcell, Option.map_some]
  rw [recordAt_eq_record hchanged]
  refine SameLives.account_singleton ⟨hlives.alive_iff, hlives.at_rest⟩ ?_ ?_ hvictim ?_
  · rw [record, hrecorder]
  · rw [hreplay, ← h.laidOut.deserted_modify_eq_modifyAt hcell hlook]
    exact congrArg Board.deserted hboard
  · intro row col food heq
    obtain ⟨rfl, rfl, hne⟩ := hfood row col food heq
    exact ⟨cell.removeAnt, h.laidOut.cellAt?_deserted hcell, hne⟩

/-- Setting a marker is told by its event. -/
theorem Tracked.account_placeMark (h : game.Tracked world stock) (hant : game.ant? id = some ant)
    (halive : ant.alive = true) (hmarker : marker < markerCount) :
    ∃ events, Account game events (game.placeMark ant marker) := by
  obtain ⟨cell, hcell, hrock, -⟩ := h.stocked.agrees.cell_of_alive hant halive
  obtain ⟨hrow, hcol⟩ := Cell.place_eq_of_ground (cell.ground_addMarker ant.color marker)
  refine ⟨_, h.account_recordAt hcell rfl rfl (.of_ants_eq rfl)
    (g := fun cell => cell.setMarks ant.color (cell.marks ant.color ||| Cell.markBit marker)) ?_ ?_
    rfl fun row col food heq => by simp at heq⟩
  · -- Rock would take no marker, but the event would be told all the same.
    rw [Cell.addMarker_eq hrock hmarker, Cell.removeAnt_setMarks, Cell.marks_removeAnt]
  · intro board
    rw [Board.replay, hrow, hcol]

/-- Clearing a marker is told by its event. -/
theorem Tracked.account_clearMark (h : game.Tracked world stock) (hant : game.ant? id = some ant)
    (halive : ant.alive = true) (hmarker : marker < markerCount) :
    ∃ events, Account game events (game.clearMark ant marker) := by
  obtain ⟨cell, hcell, -⟩ := h.stocked.agrees.cell_of_alive hant halive
  obtain ⟨hrow, hcol⟩ := Cell.place_eq_of_ground (cell.ground_removeMarker ant.color marker)
  refine ⟨_, h.account_recordAt hcell rfl rfl (.of_ants_eq rfl)
    (g := fun cell => cell.setMarks ant.color (cell.marks ant.color &&& ~~~Cell.markBit marker))
    ?_ ?_ rfl fun row col food heq => by simp at heq⟩
  · rw [Cell.removeMarker_eq hmarker, Cell.removeAnt_setMarks, Cell.marks_removeAnt]
  · intro board
    rw [Board.replay, hrow, hcol]

/-- The account of a change of the food on one cell, where nobody dies. -/
theorem Tracked.account_foodEvent {changed : Game} {f : Cell → Cell}
    (h : game.Tracked world stock) (hcell : game.board.cell? i = some cell)
    (hboard : changed.board = game.board.modify i f)
    (hrecorder : changed.recorder = game.recorder) (hlives : SameLives game changed)
    (hground : (f cell).ground = cell.ground)
    (hlook : (f cell).removeAnt = cell.removeAnt.setFood (f cell).food)
    (hne : cell.food.toNat ≠ (f cell).food.toNat) :
    Account game [foodEvent (f cell)] (changed.recordAt i foodEvent) := by
  obtain ⟨hrow, hcol⟩ := Cell.place_eq_of_ground hground
  refine h.account_recordAt hcell hboard hrecorder hlives (g := (·.setFood (f cell).food)) hlook ?_
    rfl ?_
  · intro board
    rw [foodEvent, Board.replay, hrow, hcol]
  · rintro row col food ⟨⟩
    exact ⟨hrow, hcol, fun hsame => hne (congrArg UInt32.toNat hsame)⟩

/-- Taking up food is told by its event. -/
theorem Tracked.account_takeFood (h : game.Tracked world stock) (hcan : game.canPickUp ant = true)
    (id : Nat) : ∃ events, Account game events (game.takeFood id ant) := by
  obtain ⟨-, hany⟩ := Bool.and_eq_true_iff.1 hcan
  obtain ⟨cell, hcell, hhasFood⟩ := (Option.any_eq_true ..).1 hany
  have hless := Cell.toNat_food_removeFood hhasFood
  have hlives : SameLives game ((game.modifyCell ant.pos Cell.removeFood).modifyAnt id
      ({ · with hasFood := true })) :=
    .of_modify ({ · with hasFood := true }) rfl fun _ _ => ⟨rfl, rfl, fun _ => rfl⟩
  exact ⟨_, h.account_foodEvent hcell rfl rfl hlives cell.ground_removeFood
    cell.removeAnt_removeFood (by omega)⟩

/-- Laying down food is told by its event. -/
theorem Tracked.account_layFood (h : game.Tracked world stock) (hant : game.ant? id = some ant)
    (halive : ant.alive = true) (hcarried : ant.hasFood = true) :
    ∃ events, Account game events (game.layFood id ant) := by
  obtain ⟨cell, hcell, hrock, -⟩ := h.stocked.agrees.cell_of_alive hant halive
  -- Had the sum wrapped around, the amount reported would be no news.
  have hroom := h.stocked.food_add_lt hant halive hcell
  have hone : ant.food = 1 := by rw [Ant.food, if_pos hcarried]
  have hmore : (cell.depositFood 1).food.toNat = cell.food.toNat + 1 :=
    Cell.toNat_food_depositFood hrock (show cell.food.toNat + 1 < UInt32.size by omega)
  have hlives : SameLives game ((game.modifyCell ant.pos (·.depositFood 1)).modifyAnt id
      ({ · with hasFood := false })) :=
    .of_modify ({ · with hasFood := false }) rfl fun _ _ => ⟨rfl, rfl, fun _ => rfl⟩
  exact ⟨_, h.account_foodEvent hcell rfl rfl hlives (cell.ground_depositFood 1)
    (cell.removeAnt_depositFood 1) (by omega)⟩

/-- What killing an ant comes to, with the events spelled out. -/
theorem kill_eq_record (hant : game.ant? id = some ant)
    (hcell : game.board.cell? ant.pos = some cell) :
    let left := (cell.depositFood (deathAmount ant)).removeAnt
    game.kill id =
      (((game.modifyCell ant.pos
          fun cell => (cell.depositFood (deathAmount ant)).removeAnt).modifyAnt id Ant.die).record
        (foodEvent left)).record (.antKilled id ant.color left.row left.col) := by
  intro left
  let changed := (game.modifyCell ant.pos
    fun cell => (cell.depositFood (deathAmount ant)).removeAnt).modifyAnt id Ant.die
  have hleft : changed.board.cell? ant.pos = some left := by
    rw [board_modifyAnt, board_modifyCell, Board.cell?_modify, if_pos rfl, hcell, Option.map_some]
  have hleft' : (changed.record (foodEvent left)).board.cell? ant.pos = some left := hleft
  rw [kill, hant]
  change (changed.recordAt ant.pos foodEvent).recordAt ant.pos _ = _
  rw [recordAt_eq_record hleft, recordAt_eq_record hleft']

/-- A death is told by the event of the food left and the report of the death. -/
theorem Tracked.account_kill (h : game.Tracked world stock) (hant : game.ant? id = some ant)
    (halive : ant.alive = true) : ∃ events, Account game events (game.kill id) := by
  obtain ⟨cell, hcell, hrock, -⟩ := h.stocked.agrees.cell_of_alive hant halive
  let left := (cell.depositFood (deathAmount ant)).removeAnt
  obtain ⟨hrow, hcol⟩ := Cell.place_eq_of_ground (show left.ground = cell.ground by simp [left])
  have hkill := kill_eq_record hant hcell
  have hgrown : left.food.toNat = cell.food.toNat + (deathFood + ant.food) := by
    have hroom := h.stocked.food_add_lt hant halive hcell
    rw [← toNat_deathAmount] at hroom ⊢
    exact Cell.toNat_food_depositFood hrock hroom
  have hcarried : ant.food ≤ 1 := by
    rw [Ant.food]
    split <;> decide
  have hlook : left.removeAnt = cell.removeAnt.setFood left.food :=
    cell.removeAnt_depositFood (deathAmount ant)
  have hboard : (game.kill id).board.deserted =
      game.board.deserted.modifyAt cell.row cell.col (·.setFood left.food) := by
    rw [hkill]
    exact h.laidOut.deserted_modify_eq_modifyAt hcell hlook
  have hrecorder : (game.kill id).recorder = game.recorder.recordAll
      [.foodChanged cell.row cell.col left.food, .antKilled id ant.color cell.row cell.col] := by
    rw [hkill, ← hrow, ← hcol]
    rfl
  have hdead : (game.kill id).ant? id = some ant.die := by
    rw [ant?_kill hant, if_pos rfl, hant, Option.map_some]
  exact ⟨_, account_of_death (h.laidOut.cellAt?_deserted hcell) hcarried hgrown
    ⟨ant, hant, halive⟩ hrecorder hboard hdead rfl rfl (h.laidOut.index?_eq hcell)
    fun other hne => ant?_kill_of_ne hne⟩

/-- Every elementary change has an account. -/
theorem Tracked.exists_account_change (h : game.Tracked world stock)
    (hchange : Change game game') : ∃ events, Account game events game' := by
  cases hchange with
  | enter id state =>
    exact ⟨[], (SameLives.of_modify ({ · with state }) rfl fun _ _ =>
      ⟨rfl, rfl, fun _ => rfl⟩).account rfl rfl⟩
  | @rest id =>
    exact ⟨[], (SameLives.of_modify (fun ant => { ant with resting := ant.resting - 1 }) rfl
      fun _ _ => ⟨rfl, rfl, fun _ => rfl⟩).account rfl rfl⟩
  | turn id side =>
    exact ⟨[], (SameLives.of_modify (fun ant => { ant with dir := side.apply ant.dir }) rfl
      fun _ _ => ⟨rfl, rfl, fun _ => rfl⟩).account rfl rfl⟩
  | draw bound =>
    have hlives : SameLives game { game with rng := (game.rng.below bound).2 } := .of_ants_eq rfl
    exact ⟨[], hlives.account rfl rfl⟩
  | placeMark hant halive marker hinstruction =>
    exact h.account_placeMark hant halive (h.marker_lt hinstruction rfl)
  | clearMark hant halive marker hinstruction =>
    exact h.account_clearMark hant halive (h.marker_lt hinstruction rfl)
  | takeFood hant halive hcan => exact h.account_takeFood hcan _
  | layFood hant halive hcarried => exact h.account_layFood hant halive hcarried
  | @relocate id dest ant hant halive hopen =>
    refine ⟨[], SameLives.account ?_ rfl ?_⟩
    · refine SameLives.of_modify (fun ant => (ant.moveTo dest).rest) rfl fun other hother => ?_
      obtain rfl := Option.some.inj (hant.symm.trans hother)
      exact ⟨rfl, rfl, fun hdead => by simp [halive] at hdead⟩
    · -- Two cells change, but only as to who stands there.
      rw [Game.relocate, board_modifyAnt, board_modifyCell, board_modifyCell,
        Board.deserted_modify_eq_self _ _ (Cell.removeAnt_setAnt · id),
        Board.deserted_modify_eq_self _ _ Cell.removeAnt_removeAnt]
  | kill hsurrounded =>
    obtain ⟨ant, hant, halive, -⟩ := isSurrounded_eq_true_iff.1 hsurrounded
    exact h.account_kill hant halive

/-- A chain of elementary changes has an account, and keeps what accounts rest on. -/
theorem Tracked.exists_account_changes (h : game.Tracked world stock)
    (hchanges : Changes game game') :
    game'.Tracked world stock ∧ ∃ events, Account game events game' := by
  -- On the chain, with the last change apart: what accounts rest on holds just before it.
  induction hchanges with
  | refl => exact ⟨h, [], .refl game⟩
  | tail _ hlast ih =>
    obtain ⟨hmid, events, haccount⟩ := ih
    obtain ⟨events', haccount'⟩ := hmid.exists_account_change hlast
    exact ⟨hlast.tracked hmid, events ++ events', haccount.trans haccount'⟩

/-- A tick has an account. -/
theorem Tracked.exists_account_tick (h : game.Tracked world stock) :
    game.tick.Tracked world stock ∧ ∃ events, Account game events game.tick := by
  have hsteps (ids : List Nat) {game : Game} (h : game.Tracked world stock) :
      (ids.foldl stepAnt game).Tracked world stock ∧
        ∃ events, Account game events (ids.foldl stepAnt game) := by
    induction ids generalizing game with
    | nil => exact ⟨h, [], .refl game⟩
    | cons id ids ih =>
      obtain ⟨hmid, events, haccount⟩ := h.exists_account_changes (changes_stepAnt game id)
      obtain ⟨hlast, events', haccount'⟩ := ih hmid
      exact ⟨hlast, events ++ events', haccount.trans haccount'⟩
  obtain ⟨hlast, events, haccount⟩ := hsteps (List.range game.ants.size) h
  have hlives : SameLives ((List.range game.ants.size).foldl stepAnt game) game.tick :=
    .of_ants_eq rfl
  -- That a tick is counted is nothing to tell.
  have hcount : Account ((List.range game.ants.size).foldl stepAnt game) [] game.tick :=
    hlives.account rfl rfl
  refine ⟨⟨⟨hlast.stocked.agrees, hlast.stocked.balance, hlast.stocked.room⟩, hlast.laidOut,
    hlast.valid⟩, events ++ [], haccount.trans hcount⟩

/-- Every run has an account. -/
theorem Tracked.exists_account_run (h : game.Tracked world stock) (n : Nat) :
    ∃ events, Account game events (game.run n) := by
  induction n generalizing game with
  | zero => exact ⟨[], .refl game⟩
  | succ n ih =>
    obtain ⟨hticked, events, haccount⟩ := h.exists_account_tick
    obtain ⟨events', haccount'⟩ := ih hticked
    exact ⟨events ++ events', haccount.trans haccount'⟩

/-! ### Games -/

variable {board : Board} {redBrain blackBrain : Brain} {rng : Rng}

/-- What accounts rest on holds at the start and stays. -/
theorem tracked_of_reachable (hred : redBrain.Valid) (hblack : blackBrain.Valid)
    (hlaid : board.LaidOut world) (hvacant : board.Vacant)
    (hroom : board.totalFood + deathFood * (start redBrain blackBrain board rng).ants.size <
      UInt32.size)
    (h : Reachable (start redBrain blackBrain board rng) game) :
    game.Tracked world board.totalFood where
  stocked := h.stocked (stocked_start hvacant hroom)
  laidOut := (h.ground.trans (ground_start redBrain blackBrain board rng)).trans hlaid
  valid := by
    rw [h.brain]
    rintro (_ | _)
    · exact hred
    · exact hblack

/-- Two compiled brains play on the board of a world, on which food and markers may have been put,
and there is room for all the food that there may ever be. From any state of the game on, a
recorder that is switched on is handed events that account for all that happens in any number of
further ticks. Whoever is dead by then has a record that never changes again. And if the recorder
had been switched off, everything but the recorder would be the same. -/
theorem events_account_of_reachable {redSource blackSource : String}
    (hred : Brain.compile redSource = .ok redBrain)
    (hblack : Brain.compile blackSource = .ok blackBrain) (hlaid : board.LaidOut world)
    (hvacant : board.Vacant)
    (hroom : board.totalFood + deathFood * (start redBrain blackBrain board rng).ants.size <
      UInt32.size)
    (hreach : Reachable (start redBrain blackBrain board rng) game)
    (hactive : game.recorder.active = true) (n : Nat) :
    (∃ events,
        (game.run n).recorder =
          { game.recorder with log := game.recorder.log ++ events.toArray } ∧
        Account game events (game.run n)) ∧
      (∀ id dead, game.ant? id = some dead → dead.alive = false →
        ∀ later, Reachable game later → later.ant? id = some dead) ∧
      ∀ quiet : Recorder, quiet.active = false →
        (game.observe quiet).run n = (game.run n).observe quiet := by
  have htracked := tracked_of_reachable (Brain.valid_of_compile hred)
    (Brain.valid_of_compile hblack) hlaid hvacant hroom hreach
  obtain ⟨events, haccount⟩ := htracked.exists_account_run n
  refine ⟨⟨events, ?_, haccount⟩, ?_, ?_⟩
  · rw [haccount.recorder_eq, Recorder.recordAll_eq hactive]
  · exact fun id dead hant hdead later hlater => hlater.ant?_of_dead hant hdead
  · exact fun quiet hquiet => observe_run hquiet game n

/-- A recorded tick of the siege: the two events of the black ant's death account for it. -/
theorem events_account_siege :
    let game := siege.observe { active := true }
    Reachable siege game ∧ game.recorder.active = true ∧
      Account game [.foodChanged 2 2 3, .antKilled 2 .black 2 2] (game.run 1) ∧
      ((game.observe {}).run 1).board = (game.run 1).board := by
  intro game
  have hred : Brain.compile "move 0 0" = .ok siege.redBrain := by decide +kernel
  have hblack : Brain.compile "turn left 0" = .ok siege.blackBrain := by decide +kernel
  have hroom : (Board.ofMap siegeWorld).totalFood + deathFood * siege.ants.size < UInt32.size := by
    decide +kernel
  have hreach : Reachable siege game := Reachable.refl.observe { active := true }
  obtain ⟨⟨events, hrecorder, haccount⟩, -, hquiet⟩ :=
    events_account_of_reachable hred hblack rfl (Board.vacant_ofMap siegeWorld) hroom hreach rfl 1
  have hlog : (game.run 1).recorder.log = #[.foodChanged 2 2 3, .antKilled 2 .black 2 2] := by
    decide +kernel
  have hevents : events = [.foodChanged 2 2 3, .antKilled 2 .black 2 2] := by
    rw [hrecorder] at hlog
    simpa [game, observe] using congrArg Array.toList hlog
  have hboard : ((game.observe {}).run 1).board = (game.run 1).board := by
    rw [hquiet {} rfl]
    rfl
  exact ⟨hreach, rfl, hevents ▸ haccount, hboard⟩

end Game

end Formicary
