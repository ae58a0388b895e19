import Formicary.Proofs.Brain.RoundTrip
import Formicary.Proofs.Game.Move
import Formicary.Proofs.Game.Progress
import Formicary.Proofs.Game.Station

/-!
# Moving and resting

An ant that has moved sleeps for `restTicks` ticks. In this time it may die, since others move
around it, but while it lives nobody wakes, moves, turns, feeds or robs it: its record is what it
was right after the move, and its rest is one tick shorter after every tick (`Persists.run`). In the
tick after the last one it executes the instruction that the move had led to (`move_then_rest`).

In the middle of a tick, the ants before the sleeper have stepped and the ants after it have not.
So the turn of an ant is looked at in a state of its own (`Game.atTurn`).
-/

namespace Formicary

namespace Game

variable {game game' : Game} {id other dest next : Nat} {ant : Ant}

/-- The state in which an ant steps in the tick that begins: all ants before it have stepped. -/
def atTurn (game : Game) (id : Nat) : Game := (List.range id).foldl stepAnt game

theorem reachable_atTurn (game : Game) (id : Nat) : Reachable game (game.atTurn id) :=
  Reachable.refl.foldl_stepAnt _

/-- In the tick that begins, an ant makes a successful move to a cell, with the given record before
it and the given state after it. -/
structure Moves (game : Game) (id : Nat) (ant : Ant) (dest next : Nat) : Prop where
  /-- The ant has the record when its turn comes. -/
  ant?_eq : (game.atTurn id).ant? id = some ant
  /-- The ant lives. -/
  alive : ant.alive = true
  /-- The ant is awake. -/
  awake : ant.isResting = false
  /-- The ant is at a move that leads to the state if it succeeds. -/
  instruction_eq : ∃ onFail, (game.atTurn id).instruction? id = some (.move next onFail)
  /-- The cell is ahead of the ant, and open. -/
  openAhead?_eq : (game.atTurn id).openAhead? ant = some dest

/-- An ant has the given record, unless it is dead. -/
def Persists (game : Game) (id : Nat) (ant : Ant) : Prop :=
  ∃ now, game.ant? id = some now ∧ (now.alive = true → now = ant)

namespace Persists

/-! ### While others step -/

theorem modifyAnt_of_ne (h : game.Persists id ant) (hne : other ≠ id) (f : Ant → Ant) :
    (game.modifyAnt other f).Persists id ant := by
  obtain ⟨now, hnow, hsame⟩ := h
  exact ⟨now, by rw [ant?_modifyAnt, if_neg hne, hnow], hsame⟩

theorem modifyCell (h : game.Persists id ant) (i : Nat) (f : Cell → Cell) :
    (game.modifyCell i f).Persists id ant := h

theorem recordAt (h : game.Persists id ant) (i : Nat) (event : Cell → Event) :
    (game.recordAt i event).Persists id ant := by
  obtain ⟨now, hnow, hsame⟩ := h
  exact ⟨now, by rw [ant?_recordAt, hnow], hsame⟩

/-- Whoever dies, an ant has its record if it lives. -/
theorem kill (h : game.Persists id ant) (victim : Nat) : (game.kill victim).Persists id ant := by
  obtain ⟨now, hnow, hsame⟩ := h
  cases hvictim : game.ant? victim with
  | none =>
    rw [kill_eq_self hvictim]
    exact ⟨now, hnow, hsame⟩
  | some dead =>
    by_cases hid : victim = id
    · refine ⟨now.die, by rw [ant?_kill hvictim, if_pos hid, hnow, Option.map_some], ?_⟩
      intro hlives
      simp [Ant.die] at hlives
    · exact ⟨now, by rw [ant?_kill hvictim, if_neg hid, hnow], hsame⟩

theorem settle (h : game.Persists id ant) (ids : List Nat) : (game.settle ids).Persists id ant :=
  settle_keep (P := (Persists · id ant)) (fun _ ih => Persists.kill ih _) h ids

/-- The instruction of another ant may kill an ant, but does not change it. -/
theorem effect_of_ne (h : game.Persists id ant) (hne : other ≠ id) {actor : Ant}
    {instruction : Instruction} (heffect : Effect game other actor instruction game') :
    game'.Persists id ant := by
  cases heffect with
  | nothing | draw => exact h
  | placeMark | clearMark => exact (h.modifyCell _ _).recordAt _ _
  | takeFood | layFood => exact ((h.modifyCell _ _).modifyAnt_of_ne hne _).recordAt _ _
  | turn => exact h.modifyAnt_of_ne hne _
  | move => exact (((h.modifyCell _ _).modifyCell _ _).modifyAnt_of_ne hne _).settle _

/-- The step of another ant may kill an ant, but does not change it. -/
theorem step_of_ne (h : game.Persists id ant) (hne : other ≠ id) (hstep : Step game other game') :
    game'.Persists id ant := by
  cases hstep with
  | idle => exact h
  | rest => exact h.modifyAnt_of_ne hne _
  | act _ _ _ _ heffect => exact (h.effect_of_ne hne heffect).modifyAnt_of_ne hne _

theorem foldl_stepAnt (h : game.Persists id ant) {ids : List Nat} (hnotMem : id ∉ ids) :
    (ids.foldl Game.stepAnt game).Persists id ant := by
  induction ids generalizing game with
  | nil => exact h
  | cons other ids ih =>
    rw [List.mem_cons, not_or] at hnotMem
    exact ih (h.step_of_ne (Ne.symm hnotMem.1) (step_stepAnt game other)) hnotMem.2

/-- Nothing but its death happens to an ant before its turn. -/
theorem atTurn (h : game.Persists id ant) : (game.atTurn id).Persists id ant :=
  h.foldl_stepAnt fun hmem => Nat.lt_irrefl id (List.mem_range.1 hmem)

/-! ### The step of the ant -/

/-- The change of an ant itself, if it does not bring back to life. -/
theorem modifyAnt_self (h : game.Persists id ant) {f : Ant → Ant}
    (halive : ∀ ant, (f ant).alive = ant.alive) : (game.modifyAnt id f).Persists id (f ant) := by
  obtain ⟨now, hnow, hsame⟩ := h
  refine ⟨f now, by rw [ant?_modifyAnt, if_pos rfl, hnow, Option.map_some], fun hlives => ?_⟩
  rw [hsame ((halive now).symm.trans hlives)]

/-- The step of a sleeper is a tick of rest. -/
theorem stepAnt_self {n : Nat} (h : game.Persists id { ant with resting := n + 1 }) :
    (game.stepAnt id).Persists id { ant with resting := n } := by
  obtain ⟨now, hnow, hsame⟩ := h
  -- A sleeper that lives has the given record, so it rests. A dead one does nothing.
  by_cases hlives : now.alive = true
  · have hrested := modifyAnt_self (f := fun ant => { ant with resting := ant.resting - 1 })
      ⟨now, hnow, hsame⟩ fun _ => rfl
    have hresting : now.isResting = true := by
      rw [hsame hlives]
      exact decide_eq_true n.succ_pos
    rw [stepAnt_of_resting hnow hlives hresting]
    exact hrested
  · rw [stepAnt_of_dead hnow (by simpa using hlives)]
    exact ⟨now, hnow, fun h => absurd h hlives⟩

/-- After the step of an ant in a tick, others step. -/
theorem tick_of_turn (hid : id < game.ants.size)
    (h : ((game.atTurn id).stepAnt id).Persists id ant) : game.tick.Persists id ant := by
  -- The ants before it, the ant itself, and the ants after it.
  obtain ⟨count, hcount⟩ := Nat.exists_eq_add_of_lt hid
  have hrange : List.range game.ants.size =
      List.range id ++ id :: (List.range count).map (id + ·.succ) := by
    rw [hcount, Nat.add_assoc, List.range_add, List.range_succ_eq_map, List.map_cons, List.map_map]
    rfl
  have hlater : id ∉ (List.range count).map (id + ·.succ) := by
    rw [List.mem_map]
    rintro ⟨k, -, hk⟩
    omega
  rw [Game.tick, hrange, List.foldl_append, List.foldl_cons]
  exact h.foldl_stepAnt hlater

/-- A tick is a tick of rest. -/
theorem tick {n : Nat} (h : game.Persists id { ant with resting := n + 1 }) :
    game.tick.Persists id { ant with resting := n } := by
  have ⟨now, hnow, _⟩ := h
  exact tick_of_turn (lt_size_of_ant? hnow) h.atTurn.stepAnt_self

/-- A number of ticks is as many ticks of rest. -/
theorem run {m : Nat} (ant : Ant) (n : Nat) (h : game.Persists id { ant with resting := m + n }) :
    (game.run n).Persists id { ant with resting := m } := by
  induction n generalizing game with
  | zero => exact h
  | succ n ih => exact ih h.tick

end Persists

/-- At its turn an ant has the record that persists, if it lives. -/
theorem Persists.eq (h : game.Persists id ant) {now : Ant} (hnow : game.ant? id = some now)
    (hlives : now.alive = true) : now = ant := by
  obtain ⟨now', hnow', hsame⟩ := h
  obtain rfl := Option.some.inj (hnow.symm.trans hnow')
  exact hsame hlives

/-- After a move the ant is on the new cell, in the new state, and has its whole rest before it. -/
theorem Moves.persists_tick (h : game.Moves id ant dest next) :
    game.tick.Persists id { ant with pos := dest, state := next, resting := restTicks } := by
  obtain ⟨onFail, hinstruction⟩ := h.instruction_eq
  have hget : ((game.atTurn id).brain ant.color).get? ant.state = some (.move next onFail) := by
    rwa [instruction?, h.ant?_eq, Option.bind_some] at hinstruction
  have hstep : (game.atTurn id).stepAnt id =
      (((game.atTurn id).relocate id ant dest).resolveCombat id).modifyAnt id
        ({ · with state := next }) := by
    rw [stepAnt_eq_execute h.ant?_eq h.alive h.awake hget]
    simp only [execute, h.openAhead?_eq]
  -- The deaths that follow may be its own, and so may those in the turns after it.
  have hmoved : ((game.atTurn id).relocate id ant dest).Persists id (ant.moveTo dest).rest :=
    ⟨_, ant?_relocate_self h.ant?_eq, fun _ => rfl⟩
  have hsize : id < game.ants.size := by
    rw [← (reachable_atTurn game id).size_ants]
    exact lt_size_of_ant? h.ant?_eq
  refine Persists.tick_of_turn hsize ?_
  rw [hstep]
  exact (hmoved.settle _).modifyAnt_self fun _ => rfl

variable {redBrain blackBrain : Brain} {board : Board} {rng : Rng}

/-- Two compiled brains play on any board, and in some tick an ant makes a successful move.

* While the ant lives, its record after each of the next fourteen ticks is the one right after the
  move, but for the rest, which is one tick shorter every time.
* If it lives when its turn comes in the tick after these, it has not changed and no longer rests,
  and it executes the instruction of the state that the move led to.
* In none of the fourteen ticks it makes another successful move. -/
theorem move_then_rest {redSource blackSource : String}
    (hred : Brain.compile redSource = .ok redBrain)
    (hblack : Brain.compile blackSource = .ok blackBrain)
    (hreach : Reachable (start redBrain blackBrain board rng) game)
    (hmoves : game.Moves id ant dest next) :
    (∀ k, 1 ≤ k → k ≤ restTicks → ∀ now, (game.run (k + 1)).ant? id = some now →
        now.alive = true →
          now = { ant with pos := dest, state := next, resting := restTicks - k }) ∧
      (∀ now, ((game.run (restTicks + 1)).atTurn id).ant? id = some now → now.alive = true →
        now = { ant with pos := dest, state := next, resting := 0 } ∧
          ∃ instruction, (game.brain ant.color).get? next = some instruction ∧
            let turn := (game.run (restTicks + 1)).atTurn id
            turn.stepAnt id = (turn.execute id now instruction).2.modifyAnt id
              ({ · with state := (turn.execute id now instruction).1 })) ∧
      ∀ k, 1 ≤ k → k ≤ restTicks → ∀ ant' dest' next', ¬(game.run k).Moves id ant' dest' next' := by
  -- The tick of the move is followed by ticks of rest, each of which takes one off.
  have hslept (k : Nat) (hk : k ≤ restTicks) : (game.run (k + 1)).Persists id
      { ant with pos := dest, state := next, resting := restTicks - k } := by
    have hmoved := hmoves.persists_tick
    rw [← Nat.sub_add_cancel hk] at hmoved
    exact Persists.run { ant with pos := dest, state := next } k hmoved
  refine ⟨fun k _ hk now hnow hlives => (hslept k hk).eq hnow hlives,
    fun now hnow hlives => ?_, fun k hk hk' ant' dest' next' hagain => ?_⟩
  · have hawake := (hslept restTicks le_rfl).atTurn.eq hnow hlives
    rw [Nat.sub_self] at hawake
    -- The move's success target is a state of the brain, as all states of ants are.
    have hturn : Reachable (start redBrain blackBrain board rng)
        ((game.run (restTicks + 1)).atTurn id) := (hreach.run _).foldl_stepAnt _
    have hvalid :=
      valid_start (Brain.valid_of_compile hred) (Brain.valid_of_compile hblack) board rng
    have hsound := hturn.antsSound hvalid (antsSound_start hvalid) hnow
    have hbrain : ((game.run (restTicks + 1)).atTurn id).brain = game.brain :=
      hturn.brain.trans hreach.brain.symm
    rw [hbrain] at hsound
    subst hawake
    obtain ⟨instruction, hget⟩ : ∃ instruction, (game.brain ant.color).get? next =
        some instruction := ⟨_, Array.getElem?_eq_getElem hsound.state_lt⟩
    refine ⟨rfl, instruction, hget, ?_⟩
    refine stepAnt_eq_execute hnow hlives rfl ?_
    rw [hbrain]
    exact hget
  · -- The ant would have to be awake, but it still has some rest before it.
    obtain ⟨k, rfl⟩ := Nat.exists_eq_add_of_le' hk
    have hasleep := (hslept k (by omega)).atTurn.eq hagain.ant?_eq hagain.alive
    have hrests : ant'.resting = restTicks - k := by rw [hasleep]
    have hawake := hagain.awake
    rw [Ant.isResting, hrests, decide_eq_false_iff_not] at hawake
    omega

/-- In the siege the first red ant steps east in the first tick. Fourteen ticks later it is still
where it stepped, about to wake, and in the tick after that it steps on. -/
theorem move_then_rest_siege :
    let ant : Ant := { id := 0, color := .red, pos := 6 }
    Brain.compile "move 0 0" = .ok siege.redBrain ∧
      Brain.compile "turn left 0" = .ok siege.blackBrain ∧ siege.Moves 0 ant 7 0 ∧
      (siege.run 15).ant? 0 = some { ant with pos := 7, resting := 0 } ∧
      (∀ ant' dest' next', ¬(siege.run 14).Moves 0 ant' dest' next') ∧
      (siege.run 16).station? 0 = some (.red, 8, true) := by
  intro ant
  have hred : Brain.compile "move 0 0" = .ok siege.redBrain := by decide +kernel
  have hblack : Brain.compile "turn left 0" = .ok siege.blackBrain := by decide +kernel
  have hmoves : siege.Moves 0 ant 7 0 :=
    ⟨by decide +kernel, rfl, rfl, ⟨0, by decide +kernel⟩, by decide +kernel⟩
  have hmain := move_then_rest hred hblack .refl hmoves
  have hawake : (siege.run 15).ant? 0 = some { ant with pos := 7, resting := 0 } := by
    decide +kernel
  exact ⟨hred, hblack, hmoves, hawake, hmain.2.2 14 (by decide) (by decide), by decide +kernel⟩

end Game

end Formicary
