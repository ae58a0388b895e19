import Formicary.Proofs.Game.Chance
import Formicary.Proofs.Game.Footprint
import Formicary.Proofs.Game.Move
import Formicary.Proofs.Game.Station

/-!
# Ants far from each other

A step of an ant reaches no farther than two links: the fallen of a move stand next to the cell that
the ant enters (`spares_beyond`). It looks no farther than three links: whether an enemy next to
that cell falls is a matter of the cells around the enemy (`Spares.stepAnt`). So if no chain of at
most five links joins the cells of two ants, the one finds around it what it would find if the other
had not stepped, and it makes no difference which of them steps first (`stepAnt_comm`).
-/

namespace Formicary

namespace Game

variable {game game' : Game} {ants cells cells' : Set Nat} {id other i dest : Nat} {ant : Ant}

/-! ### Those who stand on some cells -/

/-- The ants that stand on the given cells. -/
def standing (game : Game) (cells : Set Nat) : Set Nat :=
  {id | ∃ i ∈ cells, ∃ cell, game.board.cell? i = some cell ∧ cell.ant = some id}

theorem mem_standing_iff (h : game.Agrees) :
    id ∈ game.standing cells ↔
      ∃ ant, game.ant? id = some ant ∧ ant.alive = true ∧ ant.pos ∈ cells := by
  constructor
  · rintro ⟨i, hi, cell, hcell, hname⟩
    obtain ⟨ant, hant, halive, rfl⟩ := (h.occupant_iff hcell).1 hname
    exact ⟨ant, hant, halive, hi⟩
  · rintro ⟨ant, hant, halive, hpos⟩
    obtain ⟨cell, hcell, -, hname⟩ := h.cell_of_alive hant halive
    exact ⟨ant.pos, hpos, cell, hcell, hname⟩

/-- Who stands on cells that have not changed is the same. -/
theorem standing_eq (h : Spares ants cells game game') :
    game'.standing cells = game.standing cells := by
  ext id
  constructor
  · rintro ⟨i, hi, cell, hcell, hname⟩
    exact ⟨i, hi, cell, (h.cell?_eq hi).symm.trans hcell, hname⟩
  · rintro ⟨i, hi, cell, hcell, hname⟩
    exact ⟨i, hi, cell, (h.cell?_eq hi).trans hcell, hname⟩

theorem standing_mono (hsub : cells ⊆ cells') : game.standing cells ⊆ game.standing cells' :=
  fun _ ⟨i, hi, hcell⟩ => ⟨i, hsub hi, hcell⟩

/-- Nobody stands in two places. -/
theorem standing_subset_compl (h : game.Agrees) (hsub : cells ⊆ cells'ᶜ) :
    game.standing cells ⊆ (game.standing cells')ᶜ := by
  intro id hid hid'
  obtain ⟨ant, hant, -, hpos⟩ := (mem_standing_iff h).1 hid
  obtain ⟨ant', hant', -, hpos'⟩ := (mem_standing_iff h).1 hid'
  obtain rfl := Option.some.inj (hant.symm.trans hant')
  exact hsub hpos hpos'

/-! ### How far a step reaches -/

/-- The cell ahead is one link away. -/
theorem openAhead_around {n : Nat} (hopen : game.openAhead? ant = some dest) (hn : 1 ≤ n) :
    dest ∈ game.board.around n ant.pos :=
  (Board.joined_of_neighbor? (openAhead?_eq_some_iff.1 hopen).1).mono hn

section Reach

variable (h : game.Agrees) (hant : game.ant? id = some ant) (halive : ant.alive = true)

include h hant halive

/-- Whoever lives stands near its cell. -/
theorem mem_standing_around (n : Nat) : id ∈ game.standing (game.board.around n ant.pos) :=
  (mem_standing_iff h).2 ⟨ant, hant, halive, Board.mem_around_self ..⟩

variable (hopen : game.openAhead? ant = some dest)

include hopen

/-- The fallen of a move are within two links of the cell that is left. -/
theorem fallen_around (hmem : other ∈ game.fallen id ant dest) :
    (∀ victim, (game.relocate id ant dest).ant? other = some victim →
      victim.pos ∈ game.board.around 2 ant.pos) ∧
        other ∈ game.standing (game.board.around 2 ant.pos) := by
  obtain ⟨victim, hvictim, hlives, hcase⟩ := mem_fallen h hant halive hopen hmem
  rw [hvictim]
  -- The mover falls one link away, and an enemy next to it two links away.
  by_cases hother : other = id
  · subst hother
    rw [ant?_relocate_self hant] at hvictim
    obtain rfl := Option.some.inj hvictim
    refine ⟨?_, mem_standing_around h hant halive 2⟩
    rintro _ ⟨⟩
    exact openAhead_around hopen (by decide)
  · obtain ⟨-, d, hlink⟩ := hcase.resolve_left hother
    have hnear := Board.mem_around_succ (openAhead_around hopen (le_refl 1)) hlink
    rw [ant?_relocate_of_ne hother] at hvictim
    refine ⟨?_, (mem_standing_iff h).2 ⟨victim, hvictim, hlives, hnear⟩⟩
    rintro _ ⟨⟩
    exact hnear

/-- Right after a move nobody but the ant that moved stands on cells where it had not stood. -/
theorem standing_relocate_subset (hid : id ∈ game.standing cells) :
    (game.relocate id ant dest).standing cells ⊆ game.standing cells := by
  intro other hother
  obtain ⟨occupant, hoccupant, hlives, hpos⟩ :=
    (mem_standing_iff (h.relocate hant halive hopen)).1 hother
  by_cases hne : other = id
  · rwa [hne]
  · rw [ant?_relocate_of_ne hne] at hoccupant
    exact (mem_standing_iff h).2 ⟨occupant, hoccupant, hlives, hpos⟩

/-- A move spares everything that is more than two links away. -/
theorem spares_move_beyond (hwired : game.board.Wired) :
    Spares (game.standing (game.board.around 2 ant.pos))ᶜ (game.board.around 2 ant.pos)ᶜ game
      ((game.relocate id ant dest).resolveCombat id) := by
  have hself := mem_standing_around h hant halive 2
  have hmoved : Spares (game.standing (game.board.around 2 ant.pos))ᶜ
      (game.board.around 2 ant.pos)ᶜ game (game.relocate id ant dest) :=
    spares_relocate game (not_not_intro hself) (not_not_intro (Board.mem_around_self ..))
      (not_not_intro (openAhead_around hopen (by decide)))
  refine hmoved.trans ⟨fun {other} hother => ?_, fun {i} hi => ?_⟩
  · rw [ant?_move hwired h hant halive hopen, if_neg]
    exact fun hmem => hother (fallen_around h hant halive hopen hmem).2
  · have hground : ((game.relocate id ant dest).resolveCombat id).board.ground =
        (game.relocate id ant dest).board.ground := by
      rw [resolveCombat_relocate hwired h hant halive hopen, ground_foldl_kill]
    cases hcell' : ((game.relocate id ant dest).resolveCombat id).board.cell? i with
    | some cell' =>
      obtain ⟨cell, hcell, ⟨rfl, -⟩ | ⟨other, hmem, victim, hvictim, rfl, -⟩⟩ :=
        cell?_move hwired h hant halive hopen hcell'
      · exact hcell.symm
      · exact absurd ((fallen_around h hant halive hopen hmem).1 victim hvictim) hi
    | none =>
      -- The move has not made the cell disappear.
      cases hcell : (game.relocate id ant dest).board.cell? i with
      | none => rfl
      | some cell =>
        obtain ⟨cell', hsome, -⟩ := Board.exists_cell?_of_ground hground hcell
        rw [hcell'] at hsome
        cases hsome

end Reach

/-- A step spares everything that is more than two links away. -/
theorem spares_beyond (hwired : game.board.Wired) (h : game.Agrees)
    (hant : game.ant? id = some ant) :
    Spares (game.standing (game.board.around 2 ant.pos))ᶜ (game.board.around 2 ant.pos)ᶜ game
      (game.stepAnt id) := by
  by_cases halive : ant.alive = true
  · exact spares_stepAnt (not_not_intro (mem_standing_around h hant halive 2))
      (not_not_intro (Board.mem_around_self ..))
      (fun dest hopen => spares_move_beyond h hant halive hopen hwired) hant
  · rw [stepAnt_of_dead hant (by simpa using halive)]
    exact .refl game

/-! ### How far a step looks -/

/-- The same change of an ant keeps what is the same. -/
theorem Spares.modifyAnt (h : Spares ants cells game game') (id : Nat) (f : Ant → Ant) :
    Spares ants cells (game.modifyAnt id f) (game'.modifyAnt id f) where
  ant?_eq hother := by rw [ant?_modifyAnt, ant?_modifyAnt, h.ant?_eq hother]
  cell?_eq hi := h.cell?_eq hi

/-- The same change of a cell keeps what is the same. -/
theorem Spares.modifyCell (h : Spares ants cells game game') (i : Nat) (f : Cell → Cell) :
    Spares ants cells (game.modifyCell i f) (game'.modifyCell i f) where
  ant?_eq hid := h.ant?_eq hid
  cell?_eq hj := by
    rw [board_modifyCell, board_modifyCell, Board.cell?_modify, Board.cell?_modify, h.cell?_eq hj]

/-- What the recorders are told does not matter. -/
theorem Spares.recordAt (h : Spares ants cells game game') (i : Nat) (event : Cell → Event) :
    Spares ants cells (game.recordAt i event) (game'.recordAt i event) :=
  ((spares_recordAt game i event).symm.trans h).trans (spares_recordAt game' i event)

/-- The same move keeps what is the same. -/
theorem Spares.relocate (h : Spares ants cells game game') (id : Nat) (ant : Ant) (dest : Nat) :
    Spares ants cells (game.relocate id ant dest) (game'.relocate id ant dest) :=
  ((h.modifyCell ant.pos _).modifyCell dest _).modifyAnt id _

/-- The same deaths keep what is the same. -/
theorem Spares.foldl_kill (h : Spares ants cells game game') {victims : List Nat}
    (hvictims : ∀ id ∈ victims, id ∈ ants) :
    Spares ants cells (victims.foldl kill game) (victims.foldl kill game') := by
  have hkill {game game' : Game} (h : Spares ants cells game game') {id : Nat} (hid : id ∈ ants) :
      Spares ants cells (game.kill id) (game'.kill id) := by
    rw [kill, kill, h.ant?_eq hid]
    split
    · exact h
    · exact (((h.modifyCell _ _).modifyAnt id _).recordAt _ _).recordAt _ _
  -- What a death leaves is worked out from a record that is the same in both games.
  induction victims generalizing game game' with
  | nil => exact h
  | cons id victims ih =>
    obtain ⟨hid, hvictims⟩ := List.forall_mem_cons.1 hvictims
    exact ih (hkill h hid) hvictims

section Look

variable (h : Spares ants cells game game') (hground : game'.board.ground = game.board.ground)
  (hstand : game.standing cells ⊆ ants)

include h hstand

/-- The ant on a cell that has not changed has not changed. -/
theorem Spares.occupant_eq {cell : Cell} (hi : i ∈ cells) (hcell : game.board.cell? i = some cell) :
    cell.ant.bind game'.ant? = cell.ant.bind game.ant? := by
  cases hname : cell.ant with
  | none => rfl
  | some other => exact h.ant?_eq (hstand ⟨i, hi, cell, hcell, hname⟩)

/-- An ant senses what is on the cell that it looks at. -/
theorem Spares.senses_eq {target : Option Nat} (htarget : ∀ i, target = some i → i ∈ cells)
    (color : Color) (cond : Condition) :
    game'.senses target color cond = game.senses target color cond := by
  cases target with
  | none => rfl
  | some i =>
    have hi := htarget i rfl
    simp only [senses, Option.bind_some, h.cell?_eq hi]
    cases hcell : game.board.cell? i with
    | none => rfl
    | some cell =>
      have hoccupant := h.occupant_eq hstand hi hcell
      simp only [holdsOn, hoccupant]

include hground

theorem Spares.enemyToward?_eq {d : Direction}
    (hnear : ∀ j, game.board.neighbor? ant.pos d = some j → j ∈ cells) :
    game'.enemyToward? ant d = game.enemyToward? ant d := by
  simp only [enemyToward?, Board.neighbor?_eq_of_ground hground, Option.bind_eq_bind]
  cases hlink : game.board.neighbor? ant.pos d with
  | none => rfl
  | some j =>
    simp only [Option.bind_some, h.cell?_eq (hnear j hlink)]
    cases hcell : game.board.cell? j with
    | none => rfl
    | some cell =>
      have hoccupant := h.occupant_eq hstand (hnear j hlink) hcell
      simp only [Option.bind_some]
      cases hname : cell.ant with
      | none => rfl
      | some other =>
        rw [hname, Option.bind_some, Option.bind_some] at hoccupant
        rw [Option.bind_some, Option.bind_some, hoccupant]

/-- What an ant counts around it is on the cells around it. -/
theorem Spares.adjacentEnemies_eq (hid : id ∈ ants)
    (hnear : ∀ ant, game.ant? id = some ant →
      ∀ d j, game.board.neighbor? ant.pos d = some j → j ∈ cells) :
    game'.adjacentEnemies id = game.adjacentEnemies id := by
  rw [adjacentEnemies, adjacentEnemies, h.ant?_eq hid]
  cases hant : game.ant? id with
  | none => rfl
  | some ant =>
    exact List.filterMap_congr fun d _ => h.enemyToward?_eq hground hstand (hnear ant hant d)

theorem Spares.isSurrounded_eq (hid : id ∈ ants)
    (hnear : ∀ ant, game.ant? id = some ant →
      ∀ d j, game.board.neighbor? ant.pos d = some j → j ∈ cells) :
    game'.isSurrounded id = game.isSurrounded id := by
  rw [isSurrounded, isSurrounded, h.adjacentEnemies_eq hground hstand hid hnear, h.ant?_eq hid]

end Look

section Step

variable (h : Spares (game.standing cells) cells game game')
  (hground : game'.board.ground = game.board.ground) (hagrees : game.Agrees)
  (hant : game.ant? id = some ant) (halive : ant.alive = true)
  (hnear : game.board.around 3 ant.pos ⊆ cells)

include h hground hnear

theorem Spares.openAhead?_eq : game'.openAhead? ant = game.openAhead? ant := by
  simp only [openAhead?, Board.neighbor?_eq_of_ground hground, Option.bind_eq_bind]
  cases hlink : game.board.neighbor? ant.pos ant.dir with
  | none => rfl
  | some j =>
    have hj : j ∈ cells := hnear ((Board.joined_of_neighbor? hlink).mono (by decide))
    simp only [Option.bind_some, h.cell?_eq hj]

include hagrees hant halive

/-- The same ants fall of a move: they are found by looking at the cells around the mover and around
the enemies next to it. -/
theorem Spares.fallen_eq (hopen : game.openAhead? ant = some dest) :
    game'.fallen id ant dest = game.fallen id ant dest := by
  have hagreesMoved := hagrees.relocate hant halive hopen
  have hmoved := h.relocate id ant dest
  have hgroundBefore := ground_relocate game id ant dest
  have hgroundMoved : (game'.relocate id ant dest).board.ground =
      (game.relocate id ant dest).board.ground :=
    (ground_relocate game' id ant dest).trans (hground.trans hgroundBefore.symm)
  have hself : id ∈ game.standing cells :=
    standing_mono hnear (mem_standing_around hagrees hant halive 3)
  have hstand : (game.relocate id ant dest).standing cells ⊆ game.standing cells :=
    standing_relocate_subset hagrees hant halive hopen hself
  -- Of whoever is to be checked, the neighbours are three links away at most.
  have hmover : (game.relocate id ant dest).ant? id = some (ant.moveTo dest).rest :=
    ant?_relocate_self hant
  have hlook {n : Nat} {occupant : Ant} (hn : n + 1 ≤ 3)
      (hpos : occupant.pos ∈ game.board.around n ant.pos) (d : Direction) (j : Nat)
      (hlink : (game.relocate id ant dest).board.neighbor? occupant.pos d = some j) :
      j ∈ cells := by
    rw [Board.neighbor?_eq_of_ground hgroundBefore] at hlink
    exact hnear (Board.around_mono hn _ (Board.mem_around_succ hpos hlink))
  have hdest : ∀ mover, (game.relocate id ant dest).ant? id = some mover →
      mover.pos ∈ game.board.around 1 ant.pos := by
    intro mover hfound
    obtain rfl := Option.some.inj (hmover.symm.trans hfound)
    exact openAhead_around hopen (le_refl 1)
  have henemies := hmoved.adjacentEnemies_eq hgroundMoved hstand hself
    fun mover hfound => hlook (by decide) (hdest mover hfound)
  rw [fallen, fallen, henemies]
  refine List.filter_congr fun other hother => ?_
  rcases List.mem_cons.1 hother with rfl | hother
  · exact hmoved.isSurrounded_eq hgroundMoved hstand hself
      fun mover hfound => hlook (by decide) (hdest mover hfound)
  · obtain ⟨d, enemy, henemy, hlives, hlink, -⟩ :=
      (mem_adjacentEnemies_iff hagreesMoved hmover).1 hother
    rw [Board.neighbor?_eq_of_ground hgroundBefore] at hlink
    have hpos : enemy.pos ∈ game.board.around 2 ant.pos :=
      Board.mem_around_succ (openAhead_around hopen (le_refl 1)) hlink
    refine hmoved.isSurrounded_eq hgroundMoved hstand ?_ fun enemy' henemy' => ?_
    · exact hstand ((mem_standing_iff hagreesMoved).2
        ⟨enemy, henemy, hlives, hnear (Board.around_mono (by decide) _ hpos)⟩)
    · obtain rfl := Option.some.inj (henemy.symm.trans henemy')
      exact hlook (by decide) hpos

variable (hwired : game.board.Wired) (hagrees' : game'.Agrees)

include hwired hagrees'

/-- A move comes to the same. -/
theorem Spares.move (hopen : game.openAhead? ant = some dest) :
    Spares (game.standing cells) cells ((game.relocate id ant dest).resolveCombat id)
      ((game'.relocate id ant dest).resolveCombat id) := by
  have hself : id ∈ game.standing cells :=
    standing_mono hnear (mem_standing_around hagrees hant halive 3)
  have hopen' := (h.openAhead?_eq hground hnear).trans hopen
  rw [resolveCombat_relocate hwired hagrees hant halive hopen,
    resolveCombat_relocate (hwired.of_ground hground) hagrees' ((h.ant?_eq hself).trans hant) halive
      hopen', h.fallen_eq hground hagrees hant halive hnear hopen]
  -- The same ants die in both games, and they are among those whose records are the same.
  refine (h.relocate id ant dest).foldl_kill fun other hother => ?_
  exact standing_mono ((Board.around_mono (by decide) _).trans hnear)
    (fallen_around hagrees hant halive hopen hother).2

/-- An instruction goes on to the same state and comes to the same. An instruction that draws needs
the same generator. -/
theorem Spares.execute {instruction : Instruction}
    (hdraw : instruction.drawBound? = none ∨ game'.rng = game.rng) :
    (game'.execute id ant instruction).1 = (game.execute id ant instruction).1 ∧
      Spares (game.standing cells) cells (game.execute id ant instruction).2
        (game'.execute id ant instruction).2 := by
  -- Everything that an instruction looks at lies on the given cells, so both games see the same.
  have hpos : ant.pos ∈ cells := hnear (Board.mem_around_self ..)
  cases instruction with
  | sense dir cond onTrue onFalse =>
    have htarget : game'.sensedCell? ant dir = game.sensedCell? ant dir := by
      cases dir with
      | here => rfl
      | ahead | leftAhead | rightAhead => exact Board.neighbor?_eq_of_ground hground ..
    have hseen : ∀ i, game.sensedCell? ant dir = some i → i ∈ cells := by
      intro i hi
      cases dir with
      | here =>
        obtain rfl := Option.some.inj hi
        exact hpos
      | ahead | leftAhead | rightAhead =>
        exact hnear ((Board.joined_of_neighbor? hi).mono (by decide))
    rw [Game.execute, Game.execute, htarget, h.senses_eq subset_rfl hseen]
    exact ⟨rfl, h⟩
  | mark | unmark => exact ⟨rfl, (h.modifyCell _ _).recordAt _ _⟩
  | pickUp onSuccess onFail =>
    have hcan : game'.canPickUp ant = game.canPickUp ant := by
      rw [canPickUp, canPickUp, h.cell?_eq hpos]
    rw [Game.execute, Game.execute, hcan]
    split
    · exact ⟨rfl, ((h.modifyCell _ _).modifyAnt _ _).recordAt _ _⟩
    · exact ⟨rfl, h⟩
  | drop next =>
    rw [Game.execute, Game.execute]
    split
    · exact ⟨rfl, ((h.modifyCell _ _).modifyAnt _ _).recordAt _ _⟩
    · exact ⟨rfl, h⟩
  | turn side next => exact ⟨rfl, h.modifyAnt _ _⟩
  | move onSuccess onFail =>
    rw [Game.execute, Game.execute, h.openAhead?_eq hground hnear]
    split
    next dest hopen => exact ⟨rfl, h.move hground hagrees hant halive hnear hwired hagrees' hopen⟩
    next => exact ⟨rfl, h⟩
  | flip bound onZero otherwise =>
    refine ⟨?_, h.ant?_eq, h.cell?_eq⟩
    rcases hdraw with hnone | hrng
    · -- A flip below zero counts as zero.
      have hzero : bound = 0 := by simpa [Instruction.drawBound?] using hnone
      have hbound : bound ≤ 1 := by
        rw [hzero]
        decide
      simp only [Game.execute, Rng.below_eq_zero _ hbound]
    · simp only [Game.execute, hrng]

end Step

/-- If everything within three links of an ant is the same, its step comes to the same. If the ant
is about to draw, it needs the same generator. -/
theorem Spares.stepAnt (h : Spares (game.standing cells) cells game game')
    (hground : game'.board.ground = game.board.ground) (hbrain : game'.brain = game.brain)
    (hwired : game.board.Wired) (hagrees : game.Agrees) (hagrees' : game'.Agrees)
    (hant : game.ant? id = some ant) (hant' : game'.ant? id = some ant)
    (hnear : game.board.around 3 ant.pos ⊆ cells)
    (hdraw : game.drawBound? id = none ∨ game'.rng = game.rng) :
    Spares (game.standing cells) cells (game.stepAnt id) (game'.stepAnt id) := by
  -- Both games go the same way through the step, since the ant and its brain are the same.
  rw [Game.stepAnt, Game.stepAnt, hant, hant']
  simp only
  split
  next => exact h
  next hlives =>
    have halive : ant.alive = true := by simpa using hlives
    split
    next => exact h.modifyAnt id _
    next hawake =>
      rw [act, act, hbrain]
      split
      next instruction hget =>
        have hdraw' : instruction.drawBound? = none ∨ game'.rng = game.rng := by
          refine hdraw.imp_left fun hnone => ?_
          simpa [drawBound?, instruction?, hant, halive, hawake, hget] using hnone
        obtain ⟨hnext, hafter⟩ := h.execute hground hagrees hant halive hnear hwired hagrees' hdraw'
        simp only [hnext]
        exact hafter.modifyAnt id _
      next => exact h

/-! ### Steps of two ants -/

/-- Where no ant and no cell has changed, the boards and the ants are the same. -/
theorem Spares.eq_of_univ (h : Spares .univ .univ game game')
    (hground : game'.board.ground = game.board.ground) :
    game'.board = game.board ∧ game'.ants = game.ants := by
  have hcells : game'.board.cells = game.board.cells :=
    Array.ext_getElem? fun i => h.cell?_eq (Set.mem_univ i)
  exact ⟨Board.mk.injEq .. ▸ ⟨Board.toFrame_eq_of_ground hground, hcells⟩,
    Array.ext_getElem? fun id => h.ant?_eq (Set.mem_univ id)⟩

theorem agrees_stepAnt (h : game.Agrees) (id : Nat) : (game.stepAnt id).Agrees :=
  (Reachable.refl.stepAnt id).agrees h

theorem ground_stepAnt (game : Game) (id : Nat) :
    (game.stepAnt id).board.ground = game.board.ground := (Reachable.refl.stepAnt id).ground

theorem brain_stepAnt (game : Game) (id : Nat) : (game.stepAnt id).brain = game.brain :=
  (Reachable.refl.stepAnt id).brain

/-- An ant whose record and whose colony's brain are the same draws alike. -/
theorem drawBound?_eq (hbrain : game'.brain = game.brain) (hant : game'.ant? id = game.ant? id) :
    game'.drawBound? id = game.drawBound? id := by
  simp only [drawBound?, instruction?, hbrain, hant]

section Far

variable {id' : Nat} {ant' : Ant} (hwired : game.board.Wired) (h : game.Agrees)
  (hant : game.ant? id = some ant) (hant' : game.ant? id' = some ant') (halive' : ant'.alive = true)
  (hfar : ¬game.board.Joined 5 ant.pos ant'.pos)

include hwired h hant hfar

/-- A step is not seen from far away. -/
theorem spares_stepAnt_of_far :
    Spares (game.standing (game.board.around 3 ant'.pos)) (game.board.around 3 ant'.pos) game
      (game.stepAnt id) := by
  have hsub : game.board.around 3 ant'.pos ⊆ (game.board.around 2 ant.pos)ᶜ :=
    Board.around_subset_compl hwired fun hjoined => hfar (hjoined.symm hwired)
  exact (spares_beyond hwired h hant).mono (standing_subset_compl h hsub) hsub

include hant' halive'

theorem ant?_stepAnt_of_far : (game.stepAnt id).ant? id' = some ant' :=
  ((spares_stepAnt_of_far hwired h hant hfar).ant?_eq (mem_standing_around h hant' halive' 3)).trans
    hant'

/-- After a step far away an ant reaches what it would have reached before. -/
theorem spares_beyond_of_far :
    Spares (game.standing (game.board.around 2 ant'.pos))ᶜ (game.board.around 2 ant'.pos)ᶜ
      (game.stepAnt id) ((game.stepAnt id).stepAnt id') := by
  have hground := ground_stepAnt game id
  have hafter := spares_beyond (hwired.of_ground hground) (agrees_stepAnt h id)
    (ant?_stepAnt_of_far hwired h hant hant' halive' hfar)
  have hnear := (spares_stepAnt_of_far hwired h hant hfar).mono subset_rfl
    (Board.around_mono (show 2 ≤ 3 by decide) ant'.pos)
  -- The links are the same after the step, and so are those who stand near the other ant.
  rwa [Board.around, Board.joined_eq_of_ground hground, ← Board.around, standing_eq hnear] at hafter

/-- After a step far away a step comes to the same, unless both ants draw. -/
theorem spares_stepAnt_both (hdraw : game.drawBound? id = none ∨ game.drawBound? id' = none) :
    Spares (game.standing (game.board.around 3 ant'.pos)) (game.board.around 3 ant'.pos)
      (game.stepAnt id') ((game.stepAnt id).stepAnt id') := by
  refine (spares_stepAnt_of_far hwired h hant hfar).stepAnt (ground_stepAnt game id)
    (brain_stepAnt game id) hwired h (agrees_stepAnt h id) hant'
    (ant?_stepAnt_of_far hwired h hant hant' halive' hfar) subset_rfl ?_
  refine hdraw.symm.imp_right fun hnone => ?_
  rw [rng_stepAnt, hnone]
  rfl

/-- After a step far away an ant draws what it would have drawn before. -/
theorem drawBound?_stepAnt_of_far : (game.stepAnt id).drawBound? id' = game.drawBound? id' :=
  drawBound?_eq (brain_stepAnt game id)
    ((ant?_stepAnt_of_far hwired h hant hant' halive' hfar).trans hant'.symm)

end Far

section Both

variable {id' : Nat} {ant' : Ant} (hwired : game.board.Wired) (h : game.Agrees)
  (hant : game.ant? id = some ant) (halive : ant.alive = true)
  (hant' : game.ant? id' = some ant') (halive' : ant'.alive = true)
  (hfar : ¬game.board.Joined 5 ant.pos ant'.pos)
  (hdraw : game.drawBound? id = none ∨ game.drawBound? id' = none)

include hwired h hant halive hant' halive' hfar hdraw

/-- Two living ants far from each other may step in either order, and every cell and every ant comes
to the same. -/
theorem spares_comm :
    Spares .univ .univ ((game.stepAnt id).stepAnt id') ((game.stepAnt id').stepAnt id) := by
  have hfar' : ¬game.board.Joined 5 ant'.pos ant.pos := fun hjoined => hfar (hjoined.symm hwired)
  have hclose : (2 : Nat) ≤ 3 := by decide
  -- What either ant reaches, first or second, and what it comes to near the ant.
  have hfirst := spares_beyond hwired h hant
  have hfirst' := spares_beyond hwired h hant'
  have hsecond := spares_beyond_of_far hwired h hant' hant halive hfar'
  have hsecond' := spares_beyond_of_far hwired h hant hant' halive' hfar
  have hnear := spares_stepAnt_both hwired h hant' hant halive hfar' hdraw.symm
  have hnear' := spares_stepAnt_both hwired h hant hant' halive' hfar hdraw
  -- Near one ant the other one changes nothing.
  have hsub : game.board.around 3 ant.pos ⊆ (game.board.around 2 ant'.pos)ᶜ :=
    Board.around_subset_compl hwired hfar
  have hsub' : game.board.around 3 ant'.pos ⊆ (game.board.around 2 ant.pos)ᶜ :=
    Board.around_subset_compl hwired hfar'
  have hone := (hsecond'.mono (standing_subset_compl h hsub) hsub).symm.trans hnear
  have hother := hnear'.symm.trans (hsecond.mono (standing_subset_compl h hsub') hsub')
  -- Far from both nobody does.
  have hwithin := game.board.around_mono hclose ant.pos
  have hwithin' := game.board.around_mono hclose ant'.pos
  have hleft : game.standing (game.board.around 2 ant.pos) ⊆
      game.standing (game.board.around 3 ant.pos) ∪ game.standing (game.board.around 3 ant'.pos) :=
    Set.subset_union_of_subset_left (standing_mono hwithin) _
  have hright : game.standing (game.board.around 2 ant'.pos) ⊆
      game.standing (game.board.around 3 ant.pos) ∪ game.standing (game.board.around 3 ant'.pos) :=
    Set.subset_union_of_subset_right (standing_mono hwithin') _
  have hleft' : game.board.around 2 ant.pos ⊆
      game.board.around 3 ant.pos ∪ game.board.around 3 ant'.pos :=
    Set.subset_union_of_subset_left hwithin _
  have hright' : game.board.around 2 ant'.pos ⊆
      game.board.around 3 ant.pos ∪ game.board.around 3 ant'.pos :=
    Set.subset_union_of_subset_right hwithin' _
  have hneither :=
    ((hfirst.mono_compl hleft hleft').trans (hsecond'.mono_compl hright hright')).symm.trans
      ((hfirst'.mono_compl hright hright').trans (hsecond.mono_compl hleft hleft'))
  have hall := (hone.union hother).union hneither
  rwa [Set.union_compl_self, Set.union_compl_self] at hall

/-- And so does the generator. -/
theorem rng_stepAnt_comm :
    ((game.stepAnt id').stepAnt id).rng = ((game.stepAnt id).stepAnt id').rng := by
  have hfar' : ¬game.board.Joined 5 ant'.pos ant.pos := fun hjoined => hfar (hjoined.symm hwired)
  have hafter : ((game.stepAnt id).stepAnt id').rng =
      (game.drawBound? id').elim (game.stepAnt id).rng (game.stepAnt id).rng.skip := by
    rw [rng_stepAnt, drawBound?_stepAnt_of_far hwired h hant hant' halive' hfar]
  have hafter' : ((game.stepAnt id').stepAnt id).rng =
      (game.drawBound? id).elim (game.stepAnt id').rng (game.stepAnt id').rng.skip := by
    rw [rng_stepAnt, drawBound?_stepAnt_of_far hwired h hant' hant halive hfar']
  have hfirst := rng_stepAnt game id
  have hfirst' := rng_stepAnt game id'
  rw [hafter, hafter']
  -- One of the two draws nothing, so the draw of the other, if any, is the only one.
  rcases hdraw with hnone | hnone
  · rw [hnone, Option.elim_none] at hfirst
    rw [hnone, Option.elim_none, hfirst, hfirst']
  · rw [hnone, Option.elim_none] at hfirst'
    rw [hnone, Option.elim_none, hfirst, hfirst']

end Both

variable {id' : Nat} {ant' : Ant} {redBrain blackBrain : Brain} {board : Board} {rng : Rng}

/-- In every reachable state, two ants whose cells are not joined by a chain of at most five links,
and of which at most one is about to draw, may step in either order: the cells, the ants and the
generator come to the same. -/
theorem stepAnt_comm (hwired : board.Wired) (hvacant : board.Vacant)
    (hreach : Reachable (start redBrain blackBrain board rng) game)
    (hant : game.ant? id = some ant) (hant' : game.ant? id' = some ant')
    (hfar : ¬game.board.Joined 5 ant.pos ant'.pos)
    (hdraw : game.drawBound? id = none ∨ game.drawBound? id' = none) :
    let after := (game.stepAnt id).stepAnt id'
    let after' := (game.stepAnt id').stepAnt id
    after'.board = after.board ∧ after'.ants = after.ants ∧ after'.rng = after.rng := by
  intro after after'
  have hwired' : game.board.Wired :=
    hwired.of_ground (hreach.ground.trans (ground_start redBrain blackBrain board rng))
  have hagrees : game.Agrees := hreach.agrees (agrees_start hvacant)
  by_cases halive : ant.alive = true
  · by_cases halive' : ant'.alive = true
    · have hground : after'.board.ground = after.board.ground := by
        rw [ground_stepAnt, ground_stepAnt, ground_stepAnt, ground_stepAnt]
      obtain ⟨hboard, hants⟩ :=
        (spares_comm hwired' hagrees hant halive hant' halive' hfar hdraw).eq_of_univ hground
      exact ⟨hboard, hants,
        rng_stepAnt_comm hwired' hagrees hant halive hant' halive' hfar hdraw⟩
    · -- The other ant is dead, so it does nothing before or after.
      have hdead' : ant'.alive = false := by simpa using halive'
      have hsame : after' = after := by
        simp only [after, after', stepAnt_of_dead hant' hdead',
          stepAnt_of_dead (ant?_stepAnt_of_dead hant' hdead' id) hdead']
      rw [hsame]
      exact ⟨rfl, rfl, rfl⟩
  · have hdead : ant.alive = false := by simpa using halive
    have hsame : after' = after := by
      simp only [after, after', stepAnt_of_dead hant hdead,
        stepAnt_of_dead (ant?_stepAnt_of_dead hant hdead id') hdead]
    rw [hsame]
    exact ⟨rfl, rfl, rfl⟩

/-- A row of eight cells with a hill of each colony at its ends. -/
def causeway : WorldMap where
  width := 8
  height := 1
  tiles := #[.hill .red, .clear, .clear, .clear, .clear, .clear, .clear, .hill .black]

/-- From the two ends of the causeway the red ant steps forward and the black ant draws, in either
order. -/
theorem stepAnt_comm_causeway :
    let game := start ⟨#[.move 0 0]⟩ ⟨#[.flip 2 0 0]⟩ (.ofMap causeway) (.ofSeed 0)
    let after := (game.stepAnt 0).stepAnt 1
    let after' := (game.stepAnt 1).stepAnt 0
    game.drawBound? 0 = none ∧ game.drawBound? 1 = some 2 ∧ ¬game.board.Joined 5 0 7 ∧
      after'.board = after.board ∧ after'.ants = after.ants ∧ after'.rng = after.rng ∧
      after.station? 0 = some (.red, 1, true) ∧ after.rng = game.rng.skip 2 := by
  intro game after after'
  have hant : game.ant? 0 = some { id := 0, color := .red, pos := 0 } := by decide +kernel
  have hant' : game.ant? 1 = some { id := 1, color := .black, pos := 7 } := by decide +kernel
  have hfar : ¬game.board.Joined 5 0 7 := by decide +kernel
  have hdraw : game.drawBound? 0 = none := by decide +kernel
  have hcomm := stepAnt_comm (Board.wired_ofMap causeway) (Board.vacant_ofMap causeway) .refl hant
    hant' hfar (.inl hdraw)
  exact ⟨hdraw, by decide +kernel, hfar, hcomm.1, hcomm.2.1, hcomm.2.2, by decide +kernel,
    by decide +kernel⟩

end Game

end Formicary
