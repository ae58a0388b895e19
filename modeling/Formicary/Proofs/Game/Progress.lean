import Formicary.Proofs.Brain.RoundTrip
import Formicary.Proofs.Game.Checked
import Formicary.Proofs.Game.Death
import Formicary.Proofs.Game.Strict
import Formicary.Proofs.Rng

/-!
# A game cannot fail

In a game of two compiled brains no number ever leads nowhere. Four facts work together, and every
elementary change keeps them all (`Change.sound`): the compiler has checked all targets, so an ant
that goes on to a target of its instruction stays at a state of its brain; the links lead from
cells to cells and never change; board and ants agree, so that a cell names ants only and an ant a
cell; and a move is the only thing that makes an ant rest.

In such a state each definition of the game with checked accesses comes to a result, which is that
of the game itself (`Sound.strictStepAnt_eq`), and so does every run (`strictRun_eq`).
-/

namespace Formicary

/-- An ant with a given brain is at one of its states, and does not rest longer than a move
makes it. -/
structure Ant.Sound (ant : Ant) (brain : Brain) : Prop where
  /-- The brain has the ant's state. -/
  state_lt : ant.state < brain.size
  /-- The ant rests as long as after a move, at most. -/
  resting_le : ant.resting ≤ restTicks

namespace Game

/-- The ants of a game are sound. -/
def AntsSound (game : Game) : Prop :=
  ∀ ⦃id : Nat⦄ ⦃ant : Ant⦄, game.ant? id = some ant → ant.Sound (game.brain ant.color)

/-- What keeps a game from failing. -/
structure Sound (game : Game) : Prop where
  /-- The board and the ants agree about who stands where. -/
  agrees : game.Agrees
  /-- The cells are linked to the cells around them. -/
  wired : game.board.Wired
  /-- There are fewer cells than words. -/
  area_lt : game.board.height * game.board.width < UInt32.size
  /-- Both brains are valid. -/
  valid : ∀ color, (game.brain color).Valid
  /-- All ants are at states of their brains. -/
  ants : game.AntsSound

/-- The numbers that a step of a game goes by are in range. -/
structure InRange (game : Game) : Prop where
  /-- An ant's state is one of its own brain. -/
  state_lt : ∀ {id : Nat} {ant : Ant}, game.ant? id = some ant →
    ant.state < (game.brain ant.color).size
  /-- An ant, dead or alive, is on a cell. -/
  pos_lt : ∀ {id : Nat} {ant : Ant}, game.ant? id = some ant → ant.pos < game.board.cells.size
  /-- A link that leads anywhere leads to a cell. -/
  link_lt : ∀ {i j : Nat} {cell : Cell} {d : Direction}, game.board.cell? i = some cell →
    cell.link d = some j → j < game.board.cells.size
  /-- A cell names ants only. -/
  occupant_lt : ∀ {i id : Nat} {cell : Cell}, game.board.cell? i = some cell →
    cell.ant = some id → id < game.ants.size
  /-- No ant rests longer than a move makes it. -/
  resting_le : ∀ {id : Nat} {ant : Ant}, game.ant? id = some ant → ant.resting ≤ restTicks
  /-- The ants are no more than the cells. -/
  ants_le : game.ants.size ≤ game.board.cells.size
  /-- The numbers of all cells are words, and not the word for a missing neighbour. -/
  cells_le : game.board.cells.size ≤ Links.missing.toNat

variable {game game' : Game} {id i : Nat} {ant : Ant} {cell : Cell}

/-! ### What elementary changes keep -/

/-- A change of an ant that keeps it sound keeps all ants sound. -/
theorem AntsSound.modifyAnt (h : game.AntsSound) (id : Nat) {f : Ant → Ant}
    (hf : ∀ ant, game.ant? id = some ant → ant.Sound (game.brain ant.color) →
      (f ant).Sound (game.brain (f ant).color)) :
    (game.modifyAnt id f).AntsSound := by
  intro other ant' hant'
  rw [ant?_modifyAnt] at hant'
  split at hant'
  next hid =>
    subst hid
    obtain ⟨ant, hant, rfl⟩ := Option.map_eq_some_iff.1 hant'
    exact hf ant hant (h hant)
  next => exact h hant'

/-- Changing a cell keeps all ants sound. -/
theorem AntsSound.modifyCell (h : game.AntsSound) (i : Nat) (f : Cell → Cell) :
    (game.modifyCell i f).AntsSound := h

/-- Telling the recorder keeps all ants sound. -/
theorem AntsSound.recordAt (h : game.AntsSound) (i : Nat) (event : Cell → Event) :
    (game.recordAt i event).AntsSound := by
  intro other ant hant
  rw [ant?_recordAt] at hant
  rw [brain_recordAt]
  exact h hant

/-- Every elementary change keeps the ants sound. -/
theorem Change.antsSound (hchange : Change game game') (hvalid : ∀ color, (game.brain color).Valid)
    (h : game.AntsSound) : game'.AntsSound := by
  cases hchange with
  | @enter instruction id state hinstruction hstate =>
    refine h.modifyAnt id fun ant hant hsound => ⟨?_, hsound.resting_le⟩
    -- The compiler has checked the targets of every instruction of the brain.
    rw [instruction?, hant, Option.bind_some] at hinstruction
    have hmem : instruction ∈ (game.brain ant.color).instructions :=
      Array.mem_of_getElem? hinstruction
    exact ((hvalid ant.color).2.2 instruction hmem).1 state hstate
  | rest =>
    exact h.modifyAnt _ fun ant _ hsound =>
      ⟨hsound.state_lt, (Nat.sub_le ..).trans hsound.resting_le⟩
  | turn id side => exact h.modifyAnt id fun _ _ hsound => ⟨hsound.state_lt, hsound.resting_le⟩
  | draw bound => exact h
  | placeMark hant halive marker => exact (h.modifyCell _ (·.addMarker _ marker)).recordAt ..
  | clearMark hant halive marker => exact (h.modifyCell _ (·.removeMarker _ marker)).recordAt ..
  | @takeFood id ant =>
    refine ((h.modifyCell ant.pos Cell.removeFood).modifyAnt id fun _ _ hsound => ?_).recordAt ..
    exact ⟨hsound.state_lt, hsound.resting_le⟩
  | @layFood id ant =>
    refine ((h.modifyCell ant.pos (·.depositFood 1)).modifyAnt id fun _ _ hsound => ?_).recordAt ..
    exact ⟨hsound.state_lt, hsound.resting_le⟩
  | @relocate id dest ant =>
    refine ((h.modifyCell ant.pos Cell.removeAnt).modifyCell dest (·.setAnt id)).modifyAnt id
      fun _ _ hsound => ⟨hsound.state_lt, Nat.le_refl _⟩
  | @kill id hsurrounded =>
    obtain ⟨ant, hant, -⟩ := isSurrounded_eq_true_iff.1 hsurrounded
    rw [Game.kill, hant]
    refine (((h.modifyCell ant.pos _).modifyAnt id fun _ _ hsound => ?_).recordAt ..).recordAt ..
    exact ⟨hsound.state_lt, hsound.resting_le⟩

/-- Every elementary change keeps a game from failing. -/
theorem Change.sound (hchange : Change game game') (h : game.Sound) : game'.Sound where
  agrees := hchange.agrees h.agrees
  wired := h.wired.of_ground hchange.ground
  area_lt := by
    rw [Board.toFrame_eq_of_ground hchange.ground]
    exact h.area_lt
  valid := by
    rw [hchange.brain]
    exact h.valid
  ants := hchange.antsSound h.valid h.ants

/-- A chain of elementary changes keeps a game from failing, and neither adds nor removes ants. -/
theorem Changes.sound (hchanges : Changes game game') (h : game.Sound) :
    game'.Sound ∧ game'.ants.size = game.ants.size :=
  hchanges.keep (P := fun after => after.Sound ∧ after.ants.size = game.ants.size)
    (fun hchange ih => ⟨hchange.sound ih.1, hchange.size_ants.trans ih.2⟩) ⟨h, rfl⟩

/-! ### No access fails -/

theorem exists_ant? (hid : id < game.ants.size) : ∃ ant, game.ant? id = some ant :=
  ⟨_, Array.getElem?_eq_getElem hid⟩

theorem lt_size_of_ant? (hant : game.ant? id = some ant) : id < game.ants.size :=
  (Array.getElem?_eq_some_iff.1 hant).1

/-- A link that leads anywhere leads to a cell. -/
theorem Sound.exists_cell? (h : game.Sound) {d : Direction} {j : Nat}
    (hlink : game.board.neighbor? i d = some j) : ∃ cell, game.board.cell? j = some cell := by
  have hlt : j < game.board.cells.size := by
    rw [h.wired.size_eq]
    exact h.wired.lt_of_neighbor? hlink
  exact ⟨_, Array.getElem?_eq_getElem hlt⟩

/-- A cell names ants only. -/
theorem Sound.exists_occupant (h : game.Sound) (hcell : game.board.cell? i = some cell)
    (hname : cell.ant = some id) : ∃ ant, game.ant? id = some ant := by
  obtain ⟨ant, hant, -⟩ := (h.agrees.occupant_iff hcell).1 hname
  exact ⟨ant, hant⟩

/-- The cells are numbered below the word for a missing neighbour. -/
theorem Sound.lt_missing (h : game.Sound) (hi : i < game.board.height * game.board.width) :
    i < Links.missing.toNat := by
  have harea := h.area_lt
  have hmissing : Links.missing.toNat + 1 = UInt32.size := by decide
  omega

theorem Sound.strictNeighbor_eq (h : game.Sound) (hcell : game.board.cell? i = some cell)
    (d : Direction) : game.board.strictNeighbor i d = some (game.board.neighbor? i d) := by
  have hword : Links.ofWord (Links.toWord (cell.link d)) = cell.link d := by
    refine Links.ofWord_toWord fun j hj => ?_
    rw [h.wired.link_eq hcell d] at hj
    exact h.lt_missing (Frame.lt_of_index? hj)
  rw [Board.strictNeighbor, Board.neighbor?, hcell, Option.bind_eq_bind, Option.bind_some, hword]
  rfl

/-- The cell under an ant. -/
theorem Sound.exists_pos (h : game.Sound) (hant : game.ant? id = some ant) :
    ∃ cell, game.board.cell? ant.pos = some cell := by
  obtain ⟨cell, hcell, -⟩ := h.agrees.grounded hant
  exact ⟨cell, hcell⟩

theorem Sound.strictEnemyToward_eq (h : game.Sound) (hant : game.ant? id = some ant)
    (d : Direction) : game.strictEnemyToward ant d = some (game.enemyToward? ant d) := by
  obtain ⟨own, hown⟩ := h.exists_pos hant
  simp only [strictEnemyToward, enemyToward?, h.strictNeighbor_eq hown, Option.bind_eq_bind,
    Option.bind_some]
  cases hlink : game.board.neighbor? ant.pos d with
  | none => rfl
  | some i =>
    obtain ⟨cell, hcell⟩ := h.exists_cell? hlink
    simp only [hcell, Option.bind_some]
    cases hname : cell.ant with
    | none => rfl
    | some other =>
      obtain ⟨enemy, henemy⟩ := h.exists_occupant hcell hname
      simp only [henemy, Option.bind_some]
      rfl

theorem Sound.strictAdjacentEnemies_eq (h : game.Sound) (hid : id < game.ants.size) :
    game.strictAdjacentEnemies id = some (game.adjacentEnemies id) := by
  obtain ⟨ant, hant⟩ := exists_ant? hid
  have hall : Direction.all.mapM (game.strictEnemyToward ant) =
      some (Direction.all.map (game.enemyToward? ant)) := by
    rw [funext (h.strictEnemyToward_eq hant)]
    exact List.mapM_pure
  simp only [strictAdjacentEnemies, hant, hall, Option.bind_eq_bind, Option.bind_some,
    adjacentEnemies, Option.pure_def, List.filterMap_map]
  rfl

theorem Sound.strictIsSurrounded_eq (h : game.Sound) (hid : id < game.ants.size) :
    game.strictIsSurrounded id = some (game.isSurrounded id) := by
  obtain ⟨ant, hant⟩ := exists_ant? hid
  simp only [strictIsSurrounded, isSurrounded, hant, Option.bind_eq_bind, Option.bind_some,
    h.strictAdjacentEnemies_eq hid]
  cases ant.alive <;> rfl

theorem Sound.strictCheckDeath_eq (h : game.Sound) (hid : id < game.ants.size) :
    game.strictCheckDeath id = some (game.checkDeath id) := by
  obtain ⟨ant, hant⟩ := exists_ant? hid
  obtain ⟨cell, hcell⟩ := h.exists_pos hant
  simp only [strictCheckDeath, checkDeath, h.strictIsSurrounded_eq hid, Option.bind_eq_bind,
    Option.bind_some]
  split
  · simp only [strictKill, hant, hcell, Option.bind_eq_bind, Option.bind_some]
    rfl
  · rfl

/-- Checks for death do not fail, whatever was killed before. -/
theorem Sound.strictSettle_eq {ids : List Nat} (h : game.Sound)
    (hids : ∀ id ∈ ids, id < game.ants.size) :
    game.strictSettle ids = some (game.settle ids) := by
  -- Each check may kill, but it leaves a sound game with the same number of ants.
  refine foldlM_eq_some (P := fun after => after.Sound ∧ after.ants.size = game.ants.size)
    (fun {after} hafter id hid => ?_) ⟨h, rfl⟩
  have hchecked : (after.checkDeath id).Sound ∧ (after.checkDeath id).ants.size = after.ants.size :=
    (changes_settle after [id]).sound hafter.1
  exact ⟨hafter.1.strictCheckDeath_eq (hafter.2 ▸ hids id hid),
    hchecked.1, hchecked.2.trans hafter.2⟩

theorem Sound.strictResolveCombat_eq (h : game.Sound) (hid : id < game.ants.size) :
    game.strictResolveCombat id = some (game.resolveCombat id) := by
  obtain ⟨ant, hant⟩ := exists_ant? hid
  have hids : ∀ other ∈ id :: game.adjacentEnemies id, other < game.ants.size := by
    intro other hother
    rcases List.mem_cons.1 hother with rfl | hother
    · exact hid
    · obtain ⟨-, enemy, henemy, -⟩ := (mem_adjacentEnemies_iff h.agrees hant).1 hother
      exact lt_size_of_ant? henemy
  rw [strictResolveCombat, h.strictAdjacentEnemies_eq hid, Option.bind_eq_bind, Option.bind_some,
    h.strictSettle_eq hids, resolveCombat]

theorem Sound.strictSensedCell_eq (h : game.Sound) (hant : game.ant? id = some ant)
    (dir : SenseDir) : game.strictSensedCell ant dir = some (game.sensedCell? ant dir) := by
  obtain ⟨cell, hcell⟩ := h.exists_pos hant
  cases dir with
  | here => rfl
  | ahead | leftAhead | rightAhead => exact h.strictNeighbor_eq hcell _

/-- What an ant senses is the cell under it or one that a link leads to. -/
theorem Sound.exists_sensed (h : game.Sound) (hant : game.ant? id = some ant) {dir : SenseDir}
    (hsensed : game.sensedCell? ant dir = some i) : ∃ cell, game.board.cell? i = some cell := by
  cases dir with
  | here =>
    obtain rfl := Option.some.inj hsensed
    exact h.exists_pos hant
  | ahead | leftAhead | rightAhead => exact h.exists_cell? hsensed

theorem Sound.strictSenses_eq (h : game.Sound) {target : Option Nat}
    (htarget : ∀ i, target = some i → ∃ cell, game.board.cell? i = some cell) (color : Color)
    (cond : Condition) :
    game.strictSenses target color cond = some (game.senses target color cond) := by
  cases target with
  | none => rfl
  | some i =>
    obtain ⟨cell, hcell⟩ := htarget i rfl
    simp only [strictSenses, senses, hcell, Option.bind_eq_bind, Option.bind_some]
    cases hname : cell.ant with
    | none => rfl
    | some other =>
      obtain ⟨occupant, hoccupant⟩ := h.exists_occupant hcell hname
      simp only [hoccupant, Option.bind_some]
      rfl

/-- No instruction fails. -/
theorem Sound.strictExecute_eq (h : game.Sound) (hant : game.ant? id = some ant)
    (halive : ant.alive = true) (instruction : Instruction) :
    game.strictExecute id ant instruction = some (game.execute id ant instruction) := by
  -- Whatever is looked up is there: the ant, its own cell, and the cell that a link leads to.
  obtain ⟨cell, hcell⟩ := h.exists_pos hant
  cases instruction with
  | sense dir cond onTrue onFalse =>
    have hsenses : game.strictSenses (game.sensedCell? ant dir) ant.color cond =
        some (game.senses (game.sensedCell? ant dir) ant.color cond) :=
      h.strictSenses_eq (fun i hi => h.exists_sensed hant hi) ant.color cond
    simp only [strictExecute, execute, h.strictSensedCell_eq hant, hsenses, Option.bind_eq_bind,
      Option.bind_some]
    rfl
  | mark marker next | unmark marker next =>
    simp only [strictExecute, execute, hcell, Option.bind_eq_bind, Option.bind_some]
    rfl
  | pickUp onSuccess onFail =>
    simp only [strictExecute, execute, canPickUp, hcell, hant, Option.bind_eq_bind,
      Option.bind_some, Option.any_some]
    cases ant.hasFood <;> cases cell.hasFood <;> rfl
  | drop next =>
    simp only [strictExecute, execute, hcell, hant, Option.bind_eq_bind, Option.bind_some]
    cases ant.hasFood <;> rfl
  | turn side next =>
    simp only [strictExecute, execute, hant, Option.bind_eq_bind, Option.bind_some]
    rfl
  | move onSuccess onFail =>
    simp only [strictExecute, execute, h.strictNeighbor_eq hcell, Option.bind_eq_bind,
      Option.bind_some]
    cases hlink : game.board.neighbor? ant.pos ant.dir with
    | none =>
      have hopen : game.openAhead? ant = none := by simp [openAhead?, hlink]
      simp only [hopen]
      rfl
    | some dest =>
      obtain ⟨ahead, hahead⟩ := h.exists_cell? hlink
      simp only [hahead, Option.bind_some]
      by_cases havailable : ahead.isAvailable = true
      · have hopen : game.openAhead? ant = some dest :=
          openAhead?_eq_some_iff.2 ⟨hlink, ahead, hahead, havailable⟩
        have hmoved := (Change.relocate hant halive hopen).sound h
        have hid : id < (game.relocate id ant dest).ants.size := by
          rw [(Change.relocate hant halive hopen).size_ants]
          exact lt_size_of_ant? hant
        simp only [havailable, ↓reduceIte, hcell, hant, hopen, hmoved.strictResolveCombat_eq hid,
          Option.bind_some]
        rfl
      · have hopen : game.openAhead? ant = none := by simp [openAhead?, hlink, hahead, havailable]
        simp only [havailable, Bool.false_eq_true, ↓reduceIte, hopen]
        rfl
  | flip bound onZero otherwise =>
    have hdraw : bound = 0 ∨ (game.rng.below bound).1 < bound := by
      by_cases hbound : bound = 0
      · exact .inl hbound
      · exact .inr (game.rng.below_lt hbound)
    simp only [strictExecute, execute, guard, hdraw, ↓reduceIte, Option.bind_eq_bind]
    rfl

/-- No action of an ant fails. -/
theorem Sound.strictAct_eq (h : game.Sound) (hant : game.ant? id = some ant)
    (halive : ant.alive = true) : game.strictAct id ant = some (game.act id ant) := by
  have hstate := (h.ants hant).state_lt
  have hget : (game.brain ant.color).get? ant.state =
      some (game.brain ant.color).instructions[ant.state] := Array.getElem?_eq_getElem hstate
  generalize (game.brain ant.color).instructions[ant.state] = instruction at hget
  have hinstruction : game.instruction? id = some instruction := by
    rw [instruction?, hant, Option.bind_some, hget]
  -- The ant may be dead when its next state is noted, but it is still there.
  have hchanges := (effect_execute game id ant instruction).changes hant halive hinstruction
  have hsize := (hchanges.sound h).2
  obtain ⟨ant', hant'⟩ := exists_ant? (hsize ▸ lt_size_of_ant? hant)
  simp only [strictAct, act, hget, h.strictExecute_eq hant halive, hant', Option.bind_eq_bind,
    Option.bind_some]
  rfl

/-- No step of an ant fails. -/
theorem Sound.strictStepAnt_eq (h : game.Sound) (hid : id < game.ants.size) :
    game.strictStepAnt id = some (game.stepAnt id) := by
  obtain ⟨ant, hant⟩ := exists_ant? hid
  simp only [strictStepAnt, stepAnt, hant, Option.bind_eq_bind, Option.bind_some]
  by_cases halive : ant.alive = true
  · simp only [halive, Bool.not_true, Bool.false_eq_true, ↓reduceIte]
    split
    next hresting =>
      have hpos : 0 < ant.resting := of_decide_eq_true hresting
      have hcount : countDown? ant.resting = some (ant.resting - 1) := by
        cases hzero : ant.resting with
        | zero => omega
        | succ n => rfl
      have hants : game.ants.modify id ({ · with resting := ant.resting - 1 }) =
          game.ants.modify id fun ant => { ant with resting := ant.resting - 1 } := by
        refine array_modify_congr fun ant' hant' => ?_
        obtain rfl := Option.some.inj (hant.symm.trans hant')
        rfl
      simp only [hcount, Option.bind_some, modifyAnt, hants]
      rfl
    next => exact h.strictAct_eq hant halive
  · simp only [halive, Bool.not_false, ↓reduceIte]
    rfl

/-- The steps of some ants do not fail, one after the other. -/
theorem Sound.foldlM_strictStepAnt_eq {ids : List Nat} (h : game.Sound)
    (hids : ∀ id ∈ ids, id < game.ants.size) :
    ids.foldlM strictStepAnt game = some (ids.foldl stepAnt game) := by
  refine foldlM_eq_some (P := fun after => after.Sound ∧ after.ants.size = game.ants.size)
    (fun {after} hafter id hid => ?_) ⟨h, rfl⟩
  have hstepped := (changes_stepAnt after id).sound hafter.1
  exact ⟨hafter.1.strictStepAnt_eq (hafter.2 ▸ hids id hid),
    hstepped.1, hstepped.2.trans hafter.2⟩

/-- No tick fails. -/
theorem Sound.strictTick_eq (h : game.Sound) : game.strictTick = some game.tick := by
  rw [strictTick, h.foldlM_strictStepAnt_eq fun id hid => List.mem_range.1 hid]
  rfl

/-! ### Games -/

variable {first : Game} {world : WorldMap} {board : Board} {redBrain blackBrain : Brain}
  {rng : Rng}

/-- What keeps a game from failing at the start does so in every reachable state. -/
theorem Reachable.sound (h : Reachable first game) (hfirst : first.Sound) : game.Sound :=
  h.keep (P := Sound) hfirst (fun hchange ih => hchange.sound ih)
    (fun _ ih => ⟨ih.agrees, ih.wired, ih.area_lt, ih.valid, ih.ants⟩)
    fun _ ih => ⟨ih.agrees, ih.wired, ih.area_lt, ih.valid, ih.ants⟩

/-- In every reachable state all ants are at states of their brains. -/
theorem Reachable.antsSound (h : Reachable first game) (hvalid : ∀ color, (first.brain color).Valid)
    (hfirst : first.AntsSound) : game.AntsSound := by
  have hkept : (∀ color, (game.brain color).Valid) ∧ game.AntsSound :=
    h.keep (P := fun game => (∀ color, (game.brain color).Valid) ∧ game.AntsSound)
      ⟨hvalid, hfirst⟩
      (fun hchange ih => ⟨by rw [hchange.brain]; exact ih.1, hchange.antsSound ih.1 ih.2⟩)
      (fun _ ih => ih) fun _ ih => ih
  exact hkept.2

theorem valid_start (hred : redBrain.Valid) (hblack : blackBrain.Valid) (board : Board)
    (rng : Rng) : ∀ color, ((start redBrain blackBrain board rng).brain color).Valid := by
  rintro (_ | _)
  · exact hred
  · exact hblack

/-- A new ant is at the first state of its brain. -/
theorem antsSound_start
    (hvalid : ∀ color, ((start redBrain blackBrain board rng).brain color).Valid) :
    (start redBrain blackBrain board rng).AntsSound := by
  intro id ant hant
  have hmem : ant ∈ (start redBrain blackBrain board rng).ants.toList :=
    Array.mem_toList_iff.2 (Array.mem_of_getElem? hant)
  rw [ants_start] at hmem
  obtain ⟨⟨⟨i, color⟩, id⟩, -, rfl⟩ := List.mem_map.1 hmem
  exact ⟨(hvalid color).1, Nat.zero_le _⟩

/-- Nothing fails when two valid brains begin to play on a vacant board. -/
theorem sound_start (hred : redBrain.Valid) (hblack : blackBrain.Valid) (hwired : board.Wired)
    (harea : board.height * board.width < UInt32.size) (hvacant : board.Vacant) :
    (start redBrain blackBrain board rng).Sound := by
  have hground := ground_start redBrain blackBrain board rng
  have hvalid := valid_start hred hblack board rng
  refine ⟨agrees_start hvacant, hwired.of_ground hground, ?_, hvalid, antsSound_start hvalid⟩
  rw [Board.toFrame_eq_of_ground hground]
  exact harea

/-- A run from a state that cannot fail does not fail. -/
theorem Sound.strictRun_eq (h : game.Sound) (n : Nat) : game.strictRun n = some (game.run n) := by
  induction n generalizing game with
  | zero => rfl
  | succ n ih =>
    have hticked : game.tick.Sound := Reachable.refl.tick.sound h
    rw [strictRun, h.strictTick_eq, Option.bind_eq_bind, Option.bind_some, ih hticked, run]

/-- The numbers of a game that cannot fail are in range. -/
theorem Sound.inRange (h : game.Sound) (hants : game.ants.size ≤ game.board.cells.size) :
    game.InRange where
  state_lt := fun hant => (h.ants hant).state_lt
  pos_lt := fun hant => by
    obtain ⟨cell, hcell⟩ := h.exists_pos hant
    exact (Array.getElem?_eq_some_iff.1 hcell).1
  link_lt := fun hcell hlink => by
    rw [h.wired.link_eq hcell] at hlink
    rw [h.wired.size_eq]
    exact Frame.lt_of_index? hlink
  occupant_lt := fun hcell hname => by
    obtain ⟨ant, hant⟩ := h.exists_occupant hcell hname
    exact lt_size_of_ant? hant
  resting_le := fun hant => (h.ants hant).resting_le
  ants_le := hants
  cells_le := by
    have harea := h.area_lt
    have hmissing : Links.missing.toNat + 1 = UInt32.size := by decide
    rw [h.wired.size_eq]
    omega

/-- No more ants hatch than there are cells. -/
theorem size_ants_start_le (redBrain blackBrain : Brain) (board : Board) (rng : Rng) :
    (start redBrain blackBrain board rng).ants.size ≤ board.cells.size := by
  rw [← Array.length_toList, ants_start, List.length_map, List.length_zipIdx]
  refine (List.length_filterMap_le ..).trans ?_
  rw [List.length_range]

/-- Two compiled brains play on the board of a world, on which food and markers may have been put.
Then no run fails: with checked accesses it comes to the same result. In every state that the game
can come to, in the middle of a tick as well, the numbers that the next step goes by are in range,
and no ant's step fails. -/
theorem run_cannot_fail {redSource blackSource : String}
    (hred : Brain.compile redSource = .ok redBrain)
    (hblack : Brain.compile blackSource = .ok blackBrain)
    (harea : world.width * world.height < UInt32.size) (hlaid : board.LaidOut world)
    (hvacant : board.Vacant) (rng : Rng) :
    let first := start redBrain blackBrain board rng
    (∀ n, first.strictRun n = some (first.run n)) ∧
      ∀ game, Reachable first game → game.InRange ∧
        ∀ id < game.ants.size, game.strictStepAnt id = some (game.stepAnt id) := by
  intro first
  have harea' : board.height * board.width < UInt32.size := by
    rw [hlaid.toFrame_eq, Nat.mul_comm]
    exact harea
  have hfirst : first.Sound := sound_start (Brain.valid_of_compile hred)
    (Brain.valid_of_compile hblack) hlaid.wired harea' hvacant
  refine ⟨hfirst.strictRun_eq, fun game hreach => ?_⟩
  have hgame := hreach.sound hfirst
  have hants : game.ants.size ≤ game.board.cells.size := by
    have hframe := Board.toFrame_eq_of_ground
      (hreach.ground.trans (ground_start redBrain blackBrain board rng))
    rw [hreach.size_ants, hgame.wired.size_eq, hframe, ← hlaid.wired.size_eq]
    exact size_ants_start_le ..
  exact ⟨hgame.inRange hants, fun id hid => hgame.strictStepAnt_eq hid⟩

/-- The siege cannot fail. -/
theorem run_cannot_fail_siege :
    Brain.compile "move 0 0" = .ok siege.redBrain ∧
      Brain.compile "turn left 0" = .ok siege.blackBrain ∧
      siegeWorld.width * siegeWorld.height < UInt32.size ∧
      siege.strictRun 20 = some (siege.run 20) ∧ siege.tick.InRange := by
  have hred : Brain.compile "move 0 0" = .ok siege.redBrain := by decide +kernel
  have hblack : Brain.compile "turn left 0" = .ok siege.blackBrain := by decide +kernel
  have harea : siegeWorld.width * siegeWorld.height < UInt32.size := by decide
  have hmain := run_cannot_fail hred hblack harea rfl (Board.vacant_ofMap siegeWorld) (.ofSeed 0)
  exact ⟨hred, hblack, harea, hmain.1 20, (hmain.2 siege.tick (.tick .refl)).1⟩

end Game

end Formicary
