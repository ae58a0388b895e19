import Formicary.Game.Step
import Mathlib.Logic.Relation

/-!
# Steps and elementary changes

What a step of an ant can come to is said once, by two relations: `Game.Effect` for an instruction
and `Game.Step` for a step. Whatever is proved about all steps is proved by their cases
(`effect_execute`, `step_stepAnt`).

A step is a chain of elementary changes: a marker is set, food is taken up, an ant is moved to the
next cell, an ant is killed. `Game.Change` lists them all with the conditions under which the game
makes them, and `changes_stepAnt` takes every step apart. What holds at the start and is kept by
every elementary change therefore holds in every reachable state (`Reachable.keep`).

A change that an instruction asks for names it (`Game.instruction?`), since the markers and states
that an ant may come upon are those of the instructions of its brain.

The states considered are those between any two steps of single ants, not only those between
ticks, and the recorder may be exchanged at any time.
-/

namespace Formicary

namespace Game

variable {first game game' : Game} {id : Nat} {ant : Ant}

/-! ### What the operations do to the board and the ants -/

@[simp]
theorem board_modifyAnt (game : Game) (id : Nat) (f : Ant → Ant) :
    (game.modifyAnt id f).board = game.board := rfl

@[simp]
theorem ant?_modifyCell (game : Game) (i id : Nat) (f : Cell → Cell) :
    (game.modifyCell i f).ant? id = game.ant? id := rfl

@[simp]
theorem board_modifyCell (game : Game) (i : Nat) (f : Cell → Cell) :
    (game.modifyCell i f).board = game.board.modify i f := rfl

@[simp]
theorem board_recordAt (game : Game) (i : Nat) (event : Cell → Event) :
    (game.recordAt i event).board = game.board := by
  obtain ⟨recorder, h⟩ := recordAt_eq game i event
  rw [h]

@[simp]
theorem ants_recordAt (game : Game) (i : Nat) (event : Cell → Event) :
    (game.recordAt i event).ants = game.ants := by
  obtain ⟨recorder, h⟩ := recordAt_eq game i event
  rw [h]

@[simp]
theorem ant?_recordAt (game : Game) (i id : Nat) (event : Cell → Event) :
    (game.recordAt i event).ant? id = game.ant? id := by
  rw [ant?, ants_recordAt, ant?]

/-- The food that an ant leaves when it dies. -/
def deathAmount (ant : Ant) : UInt32 := UInt32.ofNat (deathFood + ant.food)

/-- There is no ant to kill where there is no ant. -/
theorem kill_eq_self (hant : game.ant? id = none) : game.kill id = game := by
  rw [kill, hant]

/-- Killing an ant changes its cell only, which takes the food and loses the ant. -/
theorem cell?_kill (hant : game.ant? id = some ant) (i : Nat) :
    (game.kill id).board.cell? i =
      if ant.pos = i then
        (game.board.cell? i).map fun cell => (cell.depositFood (deathAmount ant)).removeAnt
      else game.board.cell? i := by
  simp only [kill, hant, board_recordAt, board_modifyAnt, board_modifyCell]
  exact Board.cell?_modify ..

/-- Killing an ant changes its record only. -/
theorem ant?_kill (hant : game.ant? id = some ant) (other : Nat) :
    (game.kill id).ant? other =
      if id = other then (game.ant? other).map Ant.die else game.ant? other := by
  simp only [kill, hant, ant?_recordAt, ant?_modifyAnt, ant?_modifyCell]

/-- Moving an ant changes the cell that it leaves and the cell that it enters. -/
theorem cell?_relocate (game : Game) (id : Nat) (ant : Ant) (dest i : Nat) :
    (game.relocate id ant dest).board.cell? i =
      let left := if ant.pos = i then (game.board.cell? i).map Cell.removeAnt
        else game.board.cell? i
      if dest = i then left.map (·.setAnt id) else left := by
  simp only [relocate, board_modifyAnt, board_modifyCell, Board.cell?_modify]

/-- Moving an ant changes its record only. -/
theorem ant?_relocate (game : Game) (id : Nat) (ant : Ant) (dest other : Nat) :
    (game.relocate id ant dest).ant? other =
      if id = other then (game.ant? other).map fun ant => (ant.moveTo dest).rest
      else game.ant? other := by
  simp only [relocate, ant?_modifyAnt, ant?_modifyCell]

/-- The cell ahead of an ant is open if it is a neighbour and available. -/
theorem openAhead?_eq_some_iff {dest : Nat} :
    game.openAhead? ant = some dest ↔
      game.board.neighbor? ant.pos ant.dir = some dest ∧
        ∃ cell, game.board.cell? dest = some cell ∧ cell.isAvailable = true := by
  simp only [openAhead?, Option.bind_eq_bind, Option.bind_eq_some_iff]
  constructor
  · rintro ⟨i, hi, cell, hcell, hopen⟩
    by_cases havailable : cell.isAvailable = true
    · simp only [havailable, ↓reduceIte, Option.some.injEq] at hopen
      subst hopen
      exact ⟨hi, cell, hcell, havailable⟩
    · simp [havailable] at hopen
  · rintro ⟨hi, cell, hcell, havailable⟩
    exact ⟨dest, hi, cell, hcell, by simp [havailable]⟩

/-- An ant is surrounded if it lives and has enough enemies around it. -/
theorem isSurrounded_eq_true_iff :
    game.isSurrounded id = true ↔
      ∃ ant, game.ant? id = some ant ∧ ant.alive = true ∧
        surroundLimit ≤ (game.adjacentEnemies id).length := by
  rw [isSurrounded]
  split <;> simp_all

/-! ### The instruction of an ant -/

/-- The instruction that an ant is at. -/
def instruction? (game : Game) (id : Nat) : Option Instruction :=
  (game.ant? id).bind fun ant => (game.brain ant.color).get? ant.state

@[simp]
theorem instruction?_modifyCell (game : Game) (i id : Nat) (f : Cell → Cell) :
    (game.modifyCell i f).instruction? id = game.instruction? id := rfl

@[simp]
theorem instruction?_recordAt (game : Game) (i id : Nat) (event : Cell → Event) :
    (game.recordAt i event).instruction? id = game.instruction? id := by
  obtain ⟨recorder, h⟩ := recordAt_eq game i event
  rw [h]
  rfl

/-- A change of an ant that leaves its colony and its state alone leaves it at its instruction. -/
theorem instruction?_modifyAnt (game : Game) (other id : Nat) {f : Ant → Ant}
    (hcolor : ∀ ant, (f ant).color = ant.color) (hstate : ∀ ant, (f ant).state = ant.state) :
    (game.modifyAnt other f).instruction? id = game.instruction? id := by
  rw [instruction?, instruction?, ant?_modifyAnt]
  split
  · cases game.ant? id with
    | none => rfl
    | some ant =>
      rw [Option.map_some, Option.bind_some, Option.bind_some, hcolor, hstate]
      rfl
  · rfl

/-- Killing an ant leaves all ants at their instructions. -/
theorem instruction?_kill (game : Game) (victim id : Nat) :
    (game.kill victim).instruction? id = game.instruction? id := by
  rw [kill]
  split
  · rfl
  · rw [instruction?_recordAt, instruction?_recordAt]
    exact instruction?_modifyAnt _ _ _ (fun _ => rfl) fun _ => rfl

/-! ### What a step comes to -/

/-- What the death of a surrounded ant keeps is kept when ants are checked one after the other. -/
theorem settle_keep {P : Game → Prop}
    (hkill : ∀ {game : Game} {id : Nat}, game.isSurrounded id = true → P game → P (game.kill id))
    (hgame : P game) (ids : List Nat) : P (game.settle ids) := by
  induction ids generalizing game with
  | nil => exact hgame
  | cons id ids ih =>
    rw [settle, List.foldl_cons, checkDeath]
    split
    next hsurrounded => exact ih (hkill hsurrounded hgame)
    next => exact ih hgame

/-- An operation that can fail does not, for one ant after the other, if an invariant keeps it from
failing and holds again after it. -/
theorem foldlM_eq_some {P : Game → Prop} {op : Game → Nat → Game}
    {op? : Game → Nat → Option Game} {ids : List Nat}
    (hop : ∀ {game : Game}, P game → ∀ id ∈ ids, op? game id = some (op game id) ∧ P (op game id))
    (hgame : P game) : ids.foldlM op? game = some (ids.foldl op game) := by
  induction ids generalizing game with
  | nil => rfl
  | cons id ids ih =>
    obtain ⟨hsome, hnext⟩ := hop hgame id List.mem_cons_self
    rw [List.foldlM_cons, hsome, Option.bind_eq_bind, Option.bind_some]
    exact ih (fun h other hother => hop h other (List.mem_cons_of_mem id hother)) hnext

/-- What an instruction of an ant makes of a game. -/
inductive Effect (game : Game) (id : Nat) (ant : Ant) : Instruction → Game → Prop
  /-- The ant only senses, or it fails. -/
  | nothing (instruction : Instruction) : Effect game id ant instruction game
  /-- The ant sets a marker. -/
  | placeMark (marker next : Nat) :
      Effect game id ant (.mark marker next) (game.placeMark ant marker)
  /-- The ant clears a marker. -/
  | clearMark (marker next : Nat) :
      Effect game id ant (.unmark marker next) (game.clearMark ant marker)
  /-- The ant takes up food. -/
  | takeFood (onSuccess onFail : Nat) (hcan : game.canPickUp ant = true) :
      Effect game id ant (.pickUp onSuccess onFail) (game.takeFood id ant)
  /-- The ant lays down the food that it carries. -/
  | layFood (next : Nat) (hfood : ant.hasFood = true) :
      Effect game id ant (.drop next) (game.layFood id ant)
  /-- The ant turns. -/
  | turn (side : Turn) (next : Nat) :
      Effect game id ant (.turn side next)
        (game.modifyAnt id fun ant => { ant with dir := side.apply ant.dir })
  /-- The ant moves to the cell ahead, and whoever is then surrounded dies. -/
  | move {dest : Nat} (onSuccess onFail : Nat) (hopen : game.openAhead? ant = some dest) :
      Effect game id ant (.move onSuccess onFail) ((game.relocate id ant dest).resolveCombat id)
  /-- The generator is drawn from. -/
  | draw (bound : UInt32) (onZero otherwise : Nat) :
      Effect game id ant (.flip bound onZero otherwise)
        { game with rng := (game.rng.below bound).2 }

theorem effect_execute (game : Game) (id : Nat) (ant : Ant) (instruction : Instruction) :
    Effect game id ant instruction (game.execute id ant instruction).2 := by
  cases instruction with
  | sense => exact .nothing _
  | mark marker next => exact .placeMark marker next
  | unmark marker next => exact .clearMark marker next
  | pickUp onSuccess onFail =>
    rw [execute]
    split
    next hcan => exact .takeFood onSuccess onFail hcan
    next => exact .nothing _
  | drop next =>
    rw [execute]
    split
    next hfood => exact .layFood next hfood
    next => exact .nothing _
  | turn side next => exact .turn side next
  | move onSuccess onFail =>
    rw [execute]
    split
    next hopen => exact .move onSuccess onFail hopen
    next => exact .nothing _
  | flip bound onZero otherwise => exact .draw bound onZero otherwise

/-- Executing an instruction leaves all ants at their instructions; to go on to the next one is a
step of its own. -/
theorem Effect.instruction?_eq {instruction : Instruction}
    (h : Effect game id ant instruction game') (other : Nat) :
    game'.instruction? other = game.instruction? other := by
  cases h with
  | nothing | draw => rfl
  | placeMark | clearMark => exact instruction?_recordAt ..
  | takeFood | layFood =>
    exact (instruction?_recordAt ..).trans
      (instruction?_modifyAnt _ _ _ (fun _ => rfl) fun _ => rfl)
  | turn => exact instruction?_modifyAnt _ _ _ (fun _ => rfl) fun _ => rfl
  | @move dest =>
    have hmoved : (game.relocate id ant dest).instruction? other = game.instruction? other :=
      instruction?_modifyAnt _ _ _ (fun _ => rfl) fun _ => rfl
    rw [resolveCombat]
    exact settle_keep (P := fun after => after.instruction? other = game.instruction? other)
      (fun _ ih => (instruction?_kill ..).trans ih) hmoved _

/-- An instruction goes on to one of its targets. -/
theorem execute_fst_mem_targets (game : Game) (id : Nat) (ant : Ant) (instruction : Instruction) :
    (game.execute id ant instruction).1 ∈ instruction.targets := by
  cases instruction with
  | sense | flip =>
    simp only [execute, Instruction.targets]
    split <;> simp
  | mark | unmark | drop | turn => simp [execute, Instruction.targets]
  | pickUp onSuccess onFail =>
    rw [execute]
    split <;> simp [Instruction.targets]
  | move onSuccess onFail =>
    rw [execute]
    split <;> simp [Instruction.targets]

/-- What a step of an ant makes of a game. -/
inductive Step (game : Game) (id : Nat) : Game → Prop
  /-- Nobody has the number, or the ant is dead or at no instruction. -/
  | idle : Step game id game
  /-- A resting ant rests. -/
  | rest {ant : Ant} (hant : game.ant? id = some ant) (halive : ant.alive = true)
      (hresting : ant.isResting = true) :
      Step game id (game.modifyAnt id fun ant => { ant with resting := ant.resting - 1 })
  /-- An ant executes the instruction of its state and notes its next state. -/
  | act {ant : Ant} {instruction : Instruction} {after : Game} (state : Nat)
      (hant : game.ant? id = some ant) (halive : ant.alive = true)
      (hinstruction : game.instruction? id = some instruction)
      (heffect : Effect game id ant instruction after) (hstate : state ∈ instruction.targets) :
      Step game id (after.modifyAnt id ({ · with state }))

/-- The step of a dead ant changes nothing. -/
theorem stepAnt_of_dead (hant : game.ant? id = some ant) (hdead : ant.alive = false) :
    game.stepAnt id = game := by
  rw [stepAnt, hant]
  simp only [hdead, Bool.not_false, ↓reduceIte]

/-- The step of a resting ant is a tick of rest. -/
theorem stepAnt_of_resting (hant : game.ant? id = some ant) (halive : ant.alive = true)
    (hresting : ant.isResting = true) :
    game.stepAnt id = game.modifyAnt id fun ant => { ant with resting := ant.resting - 1 } := by
  rw [stepAnt, hant]
  simp only [halive, hresting, Bool.not_true, Bool.false_eq_true, ↓reduceIte]

/-- An ant that is awake acts. -/
theorem stepAnt_of_awake (hant : game.ant? id = some ant) (halive : ant.alive = true)
    (hawake : ant.isResting = false) : game.stepAnt id = game.act id ant := by
  rw [stepAnt, hant]
  simp only [halive, hawake, Bool.not_true, Bool.false_eq_true, ↓reduceIte]

/-- An ant that is awake and at a state of its brain executes the instruction of the state. -/
theorem stepAnt_eq_execute {instruction : Instruction} (hant : game.ant? id = some ant)
    (halive : ant.alive = true) (hawake : ant.isResting = false)
    (hget : (game.brain ant.color).get? ant.state = some instruction) :
    game.stepAnt id = (game.execute id ant instruction).2.modifyAnt id
      ({ · with state := (game.execute id ant instruction).1 }) := by
  rw [stepAnt_of_awake hant halive hawake, act, hget]

theorem step_stepAnt (game : Game) (id : Nat) : Step game id (game.stepAnt id) := by
  cases hant : game.ant? id with
  | none =>
    rw [stepAnt, hant]
    exact .idle
  | some ant =>
    cases halive : ant.alive with
    | false =>
      rw [stepAnt_of_dead hant halive]
      exact .idle
    | true =>
      cases hresting : ant.isResting with
      | true =>
        rw [stepAnt_of_resting hant halive hresting]
        exact .rest hant halive hresting
      | false =>
        cases hget : (game.brain ant.color).get? ant.state with
        | none =>
          rw [stepAnt_of_awake hant halive hresting, act, hget]
          exact .idle
        | some instruction =>
          have hinstruction : game.instruction? id = some instruction := by
            rw [instruction?, hant, Option.bind_some, hget]
          rw [stepAnt_eq_execute hant halive hresting hget]
          exact .act _ hant halive hinstruction (effect_execute ..) (execute_fst_mem_targets ..)

/-! ### Elementary changes -/

/-- One elementary change of a game. -/
inductive Change : Game → Game → Prop
  /-- An ant goes on from its instruction to another state of its brain. -/
  | enter {game : Game} {instruction : Instruction} (id state : Nat)
      (hinstruction : game.instruction? id = some instruction)
      (hstate : state ∈ instruction.targets) :
      Change game (game.modifyAnt id ({ · with state }))
  /-- A resting ant rests. -/
  | rest {game : Game} {id : Nat} {ant : Ant} (hant : game.ant? id = some ant)
      (halive : ant.alive = true) (hresting : ant.isResting = true) :
      Change game (game.modifyAnt id fun ant => { ant with resting := ant.resting - 1 })
  /-- An ant turns. -/
  | turn {game : Game} (id : Nat) (side : Turn) :
      Change game (game.modifyAnt id fun ant => { ant with dir := side.apply ant.dir })
  /-- The generator is drawn from. -/
  | draw {game : Game} (bound : UInt32) :
      Change game { game with rng := (game.rng.below bound).2 }
  /-- An ant sets a marker. -/
  | placeMark {game : Game} {id next : Nat} {ant : Ant} (hant : game.ant? id = some ant)
      (halive : ant.alive = true) (marker : Nat)
      (hinstruction : game.instruction? id = some (.mark marker next)) :
      Change game (game.placeMark ant marker)
  /-- An ant clears a marker. -/
  | clearMark {game : Game} {id next : Nat} {ant : Ant} (hant : game.ant? id = some ant)
      (halive : ant.alive = true) (marker : Nat)
      (hinstruction : game.instruction? id = some (.unmark marker next)) :
      Change game (game.clearMark ant marker)
  /-- An ant takes up food. -/
  | takeFood {game : Game} {id : Nat} {ant : Ant} (hant : game.ant? id = some ant)
      (halive : ant.alive = true) (hcan : game.canPickUp ant = true) :
      Change game (game.takeFood id ant)
  /-- An ant lays down the food that it carries. -/
  | layFood {game : Game} {id : Nat} {ant : Ant} (hant : game.ant? id = some ant)
      (halive : ant.alive = true) (hfood : ant.hasFood = true) : Change game (game.layFood id ant)
  /-- An ant moves to the cell ahead. -/
  | relocate {game : Game} {id dest : Nat} {ant : Ant} (hant : game.ant? id = some ant)
      (halive : ant.alive = true) (hopen : game.openAhead? ant = some dest) :
      Change game (game.relocate id ant dest)
  /-- A surrounded ant dies. -/
  | kill {game : Game} {id : Nat} (hsurrounded : game.isSurrounded id = true) :
      Change game (game.kill id)

/-- Any number of elementary changes, one after the other. -/
def Changes : Game → Game → Prop := Relation.ReflTransGen Change

theorem Change.changes (h : Change game game') : Changes game game' := .single h

/-- What every elementary change keeps is kept by any number of them. -/
theorem Changes.keep {P : Game → Prop} (h : Changes game game')
    (hchange : ∀ {game game'}, Change game game' → P game → P game') (hgame : P game) :
    P game' := by
  induction h with
  | refl => exact hgame
  | tail _ hlast ih => exact hchange hlast ih

/-- Checking ants one after the other kills some of them. -/
theorem changes_settle (game : Game) (ids : List Nat) : Changes game (game.settle ids) :=
  settle_keep (fun hsurrounded ih => ih.tail (.kill hsurrounded)) .refl ids

/-- What an instruction makes of a game is a chain of elementary changes. -/
theorem Effect.changes {instruction : Instruction} (h : Effect game id ant instruction game')
    (hant : game.ant? id = some ant) (halive : ant.alive = true)
    (hinstruction : game.instruction? id = some instruction) : Changes game game' := by
  cases h with
  | nothing => exact .refl
  | placeMark marker => exact (Change.placeMark hant halive marker hinstruction).changes
  | clearMark marker => exact (Change.clearMark hant halive marker hinstruction).changes
  | takeFood _ _ hcan => exact (Change.takeFood hant halive hcan).changes
  | layFood _ hfood => exact (Change.layFood hant halive hfood).changes
  | turn side => exact (Change.turn id side).changes
  | move _ _ hopen =>
    exact (Change.relocate hant halive hopen).changes.trans (changes_settle _ _)
  | draw bound => exact (Change.draw bound).changes

/-- What a step makes of a game is a chain of elementary changes. -/
theorem Step.changes (h : Step game id game') : Changes game game' := by
  cases h with
  | idle => exact .refl
  | rest hant halive hresting => exact (Change.rest hant halive hresting).changes
  | act state hant halive hinstruction heffect hstate =>
    -- The ant is still at its instruction when it goes on to the next one.
    have hstill := (heffect.instruction?_eq id).trans hinstruction
    exact (heffect.changes hant halive hinstruction).tail (Change.enter id state hstill hstate)

/-- Every step of an ant is a chain of elementary changes. -/
theorem changes_stepAnt (game : Game) (id : Nat) : Changes game (game.stepAnt id) :=
  (step_stepAnt game id).changes

/-! ### Reachable states -/

/-- The game with another recorder. -/
def observe (game : Game) (recorder : Recorder) : Game := { game with recorder }

/-- The states that a game can come to: single ants step in any order, ticks are counted, and the
recorder may be exchanged. -/
inductive Reachable (first : Game) : Game → Prop
  /-- The game begins. -/
  | refl : Reachable first first
  /-- An ant steps. -/
  | stepAnt {game : Game} (id : Nat) : Reachable first game → Reachable first (game.stepAnt id)
  /-- A tick is counted. -/
  | count {game : Game} :
      Reachable first game → Reachable first { game with ticks := game.ticks + 1 }
  /-- The recorder is exchanged. -/
  | observe {game : Game} (recorder : Recorder) :
      Reachable first game → Reachable first { game with recorder }

/-- The state after steps of some ants is reachable. -/
theorem Reachable.foldl_stepAnt (h : Reachable first game) (ids : List Nat) :
    Reachable first (ids.foldl Game.stepAnt game) := by
  induction ids generalizing game with
  | nil => exact h
  | cons id ids ih => exact ih (h.stepAnt id)

/-- The state after a tick is reachable. -/
theorem Reachable.tick (h : Reachable first game) : Reachable first game.tick :=
  (h.foldl_stepAnt _).count

/-- The state after any number of ticks is reachable. -/
theorem Reachable.run (n : Nat) (h : Reachable first game) : Reachable first (game.run n) := by
  induction n generalizing game with
  | zero => exact h
  | succ n ih => exact ih h.tick

/-- What every elementary change keeps holds in every reachable state, if it holds at the start
and does not depend on the count of ticks and the recorder. -/
theorem Reachable.keep {P : Game → Prop} (h : Reachable first game) (hfirst : P first)
    (hchange : ∀ {game game'}, Change game game' → P game → P game')
    (hcount : ∀ {game : Game} (ticks : Nat), P game → P { game with ticks })
    (hobserve : ∀ {game : Game} (recorder : Recorder), P game → P { game with recorder }) :
    P game := by
  induction h with
  | refl => exact hfirst
  | @stepAnt game id _ ih => exact (changes_stepAnt game id).keep hchange ih
  | count _ ih => exact hcount _ ih
  | observe recorder _ ih => exact hobserve recorder ih

/-- What holds between two games and is kept when the same ant steps in both, and when both count a
tick, is kept by any number of ticks. -/
theorem run_related {R : Game → Game → Prop}
    (hsize : ∀ {game game'}, R game game' → game'.ants.size = game.ants.size)
    (hstep : ∀ {game game'} id, R game game' → R (game.stepAnt id) (game'.stepAnt id))
    (hcount : ∀ {game game'}, R game game' →
      R { game with ticks := game.ticks + 1 } { game' with ticks := game'.ticks + 1 })
    {game game' : Game} (h : R game game') (n : Nat) : R (game.run n) (game'.run n) := by
  have hsteps (ids : List Nat) {game game' : Game} (h : R game game') :
      R (ids.foldl stepAnt game) (ids.foldl stepAnt game') := by
    induction ids generalizing game game' with
    | nil => exact h
    | cons id ids ih => exact ih (hstep id h)
  induction n generalizing game game' with
  | zero => exact h
  | succ n ih =>
    refine ih ?_
    rw [tick, tick, hsize h]
    exact hcount (hsteps _ h)

end Game

end Formicary
