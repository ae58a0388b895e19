import Formicary.Proofs.Board.Ground
import Formicary.Proofs.Game.Change

/-!
# Ants and the cells they stand on

Who stands where is written down twice: a cell names the ant on it, and a living ant names its
cell. `Board.Agrees` says that both sides tell the same, that all ants are on solid ground, and
that the dead carry nothing. Every elementary change of a game keeps this (`Change.agrees`).

Two facts make the difference between the changes. A cell that an ant moves to was empty and no
rock, so putting the ant there displaces nobody and is not ignored. An ant that is killed was
alive, so the cell that it is taken off is its own.
-/

namespace Formicary

/-- The board and the ants agree about who stands where. -/
structure Board.Agrees (board : Board) (ants : Array Ant) : Prop where
  /-- A cell names the living ant that names the cell, and nobody else. -/
  occupant_iff : ∀ {i : Nat} {cell : Cell} {id : Nat}, board.cell? i = some cell →
    (cell.ant = some id ↔ ∃ ant, ants[id]? = some ant ∧ ant.alive = true ∧ ant.pos = i)
  /-- Every ant, dead or alive, is on a cell of the board that is no rock. -/
  grounded : ∀ {id : Nat} {ant : Ant}, ants[id]? = some ant →
    ∃ cell, board.cell? ant.pos = some cell ∧ cell.isRock = false
  /-- Dead ants carry nothing. -/
  empty_handed : ∀ {id : Nat} {ant : Ant}, ants[id]? = some ant → ant.alive = false →
    ant.hasFood = false

namespace Board.Agrees

variable {board : Board} {ants : Array Ant} {id id' : Nat} {ant ant' : Ant}

/-- The cell of a living ant names it. -/
theorem cell_of_alive (h : board.Agrees ants) (hant : ants[id]? = some ant)
    (halive : ant.alive = true) :
    ∃ cell, board.cell? ant.pos = some cell ∧ cell.isRock = false ∧ cell.ant = some id := by
  obtain ⟨cell, hcell, hrock⟩ := h.grounded hant
  exact ⟨cell, hcell, hrock, (h.occupant_iff hcell).2 ⟨ant, hant, halive, rfl⟩⟩

/-- No two living ants share a cell. -/
theorem eq_of_pos_eq (h : board.Agrees ants) (hant : ants[id]? = some ant)
    (halive : ant.alive = true) (hant' : ants[id']? = some ant') (halive' : ant'.alive = true)
    (hpos : ant.pos = ant'.pos) : id = id' := by
  obtain ⟨cell, hcell, -, hid⟩ := h.cell_of_alive hant halive
  obtain ⟨cell', hcell', -, hid'⟩ := h.cell_of_alive hant' halive'
  rw [← hpos, hcell, Option.some.injEq] at hcell'
  subst hcell'
  exact Option.some.inj (hid.symm.trans hid')

/-- Changing a cell without exchanging the ant on it keeps the agreement. -/
theorem modify (h : board.Agrees ants) (i : Nat) {f : Cell → Cell}
    (hground : ∀ cell, (f cell).ground = cell.ground) (hant : ∀ cell, (f cell).ant = cell.ant) :
    (board.modify i f).Agrees ants := by
  have hcell? (j : Nat) (cell' : Cell) (hcell' : (board.modify i f).cell? j = some cell') :
      ∃ cell, board.cell? j = some cell ∧ cell'.ant = cell.ant ∧ cell'.isRock = cell.isRock := by
    rw [cell?_modify] at hcell'
    split at hcell'
    · obtain ⟨cell, hcell, rfl⟩ := Option.map_eq_some_iff.1 hcell'
      exact ⟨cell, hcell, hant cell, Cell.isRock_eq_of_ground (hground cell)⟩
    · exact ⟨cell', hcell', rfl, rfl⟩
  exact {
    occupant_iff := by
      intro j cell' id hcell'
      obtain ⟨cell, hcell, hsame, -⟩ := hcell? j cell' hcell'
      rw [hsame]
      exact h.occupant_iff hcell
    grounded := by
      intro id ant hid
      obtain ⟨cell, hcell, hrock⟩ := h.grounded hid
      obtain ⟨cell', hcell', hsame⟩ := exists_cell?_of_ground (board.ground_modify i hground) hcell
      exact ⟨cell', hcell', (Cell.isRock_eq_of_ground hsame).trans hrock⟩
    empty_handed := h.empty_handed }

/-- Changing an ant without moving or killing it keeps the agreement. -/
theorem modifyAnt (h : board.Agrees ants) (id : Nat) {f : Ant → Ant}
    (hpos : ∀ ant, (f ant).pos = ant.pos) (halive : ∀ ant, (f ant).alive = ant.alive)
    (hfood : ∀ ant, ants[id]? = some ant → ant.alive = false → ant.hasFood = false →
      (f ant).hasFood = false) :
    board.Agrees (ants.modify id f) := by
  have hant? (id' : Nat) (ant' : Ant) (hant' : (ants.modify id f)[id']? = some ant') :
      ∃ ant, ants[id']? = some ant ∧ ant'.pos = ant.pos ∧ ant'.alive = ant.alive ∧
        (ant.alive = false → ant'.hasFood = false) := by
    rw [Array.getElem?_modify] at hant'
    split at hant'
    next hid =>
      subst hid
      obtain ⟨ant, hant, rfl⟩ := Option.map_eq_some_iff.1 hant'
      exact ⟨ant, hant, hpos ant, halive ant, fun hdead =>
        hfood ant hant hdead (h.empty_handed hant hdead)⟩
    next => exact ⟨ant', hant', rfl, rfl, h.empty_handed hant'⟩
  exact {
    occupant_iff := by
      intro i cell id' hcell
      rw [h.occupant_iff hcell]
      constructor
      · rintro ⟨ant, hant, hlives, rfl⟩
        by_cases hid : id = id'
        · refine ⟨f ant, ?_, (halive ant).trans hlives, hpos ant⟩
          rw [Array.getElem?_modify, if_pos hid, hant, Option.map_some]
        · refine ⟨ant, ?_, hlives, rfl⟩
          rw [Array.getElem?_modify, if_neg hid, hant]
      · rintro ⟨ant', hant', hlives, rfl⟩
        obtain ⟨ant, hant, hsame, hsame', -⟩ := hant? id' ant' hant'
        exact ⟨ant, hant, hsame'.symm.trans hlives, hsame.symm⟩
    grounded := by
      intro id' ant' hant'
      obtain ⟨ant, hant, hsame, -, -⟩ := hant? id' ant' hant'
      rw [hsame]
      exact h.grounded hant
    empty_handed := by
      intro id' ant' hant' hdead
      obtain ⟨ant, -, -, hsame, hempty⟩ := hant? id' ant' hant'
      exact hempty (hsame.symm.trans hdead) }

end Board.Agrees

namespace Game

variable {game game' : Game} {id dest : Nat} {ant : Ant}

/-- The board and the ants of a game agree about who stands where. -/
abbrev Agrees (game : Game) : Prop := game.board.Agrees game.ants

/-- Changing a cell without exchanging the ant on it keeps the agreement. -/
theorem Agrees.modifyCell (h : game.Agrees) (i : Nat) {f : Cell → Cell}
    (hground : ∀ cell, (f cell).ground = cell.ground) (hant : ∀ cell, (f cell).ant = cell.ant) :
    (game.modifyCell i f).Agrees :=
  h.modify i hground hant

/-- Changing an ant without moving or killing it keeps the agreement. -/
theorem Agrees.modifyAnt (h : game.Agrees) (id : Nat) {f : Ant → Ant}
    (hpos : ∀ ant, (f ant).pos = ant.pos) (halive : ∀ ant, (f ant).alive = ant.alive)
    (hfood : ∀ ant, game.ant? id = some ant → ant.alive = false → ant.hasFood = false →
      (f ant).hasFood = false) :
    (game.modifyAnt id f).Agrees :=
  Board.Agrees.modifyAnt h id hpos halive hfood

/-- Telling the recorder keeps the agreement. -/
theorem Agrees.recordAt (h : game.Agrees) (i : Nat) (event : Cell → Event) :
    (game.recordAt i event).Agrees := by
  rw [Agrees, board_recordAt, ants_recordAt]
  exact h

/-- After a death the dead ant stands nowhere, and everybody else where he stood. -/
theorem stands_kill_iff (hant : game.ant? id = some ant) {i id' : Nat} :
    (∃ ant', (game.kill id).ant? id' = some ant' ∧ ant'.alive = true ∧ ant'.pos = i) ↔
      id ≠ id' ∧ ∃ ant', game.ant? id' = some ant' ∧ ant'.alive = true ∧ ant'.pos = i := by
  rw [ant?_kill hant]
  split
  next hid =>
    refine iff_of_false ?_ fun h => h.1 hid
    rintro ⟨_, hdead, hlives, -⟩
    obtain ⟨_, -, rfl⟩ := Option.map_eq_some_iff.1 hdead
    simp [Ant.die] at hlives
  next hid => exact (and_iff_right hid).symm

/-- An ant that is killed is taken off its own cell. -/
theorem Agrees.kill (h : game.Agrees) (hant : game.ant? id = some ant)
    (halive : ant.alive = true) : (game.kill id).Agrees where
  occupant_iff := by
    intro i cell' id' hcell'
    refine Iff.trans ?_ (stands_kill_iff hant).symm
    rw [cell?_kill hant] at hcell'
    split at hcell'
    next hpos =>
      -- Nobody is left on the cell: the dead ant is gone, and it had stood there alone.
      obtain ⟨cell, hcell, rfl⟩ := Option.map_eq_some_iff.1 hcell'
      simp only [Cell.ant_removeAnt, reduceCtorEq, false_iff]
      rintro ⟨hne, ant', hant', hlives, hpos'⟩
      exact hne (h.eq_of_pos_eq hant halive hant' hlives (hpos.trans hpos'.symm))
    next hpos =>
      rw [h.occupant_iff hcell']
      refine (and_iff_right_of_imp ?_).symm
      rintro ⟨ant', hant', -, hpos'⟩ rfl
      obtain rfl : ant = ant' := Option.some.inj (hant.symm.trans hant')
      exact hpos hpos'
  grounded := by
    intro id' ant' hant'
    have hgrounded : ∃ cell, game.board.cell? ant'.pos = some cell ∧ cell.isRock = false := by
      change (game.kill id).ant? id' = some ant' at hant'
      rw [ant?_kill hant] at hant'
      split at hant'
      · obtain ⟨before, hbefore, rfl⟩ := Option.map_eq_some_iff.1 hant'
        have hgrounded := h.grounded (show game.ants[id']? = some before from hbefore)
        exact hgrounded
      · exact h.grounded hant'
    obtain ⟨cell, hcell, hrock⟩ := hgrounded
    rw [cell?_kill hant, hcell]
    split
    · have hsame : ((cell.depositFood (deathAmount ant)).removeAnt).ground = cell.ground := by simp
      exact ⟨_, rfl, (Cell.isRock_eq_of_ground hsame).trans hrock⟩
    · exact ⟨cell, rfl, hrock⟩
  empty_handed := by
    intro id' ant' hant' hdead
    change (game.kill id).ant? id' = some ant' at hant'
    rw [ant?_kill hant] at hant'
    split at hant'
    · obtain ⟨_, -, rfl⟩ := Option.map_eq_some_iff.1 hant'
      rfl
    · exact h.empty_handed hant' hdead

/-- Moving an ant does not change the ground. -/
theorem ground_relocate (game : Game) (id : Nat) (ant : Ant) (dest : Nat) :
    (game.relocate id ant dest).board.ground = game.board.ground := by
  rw [Game.relocate, board_modifyAnt, board_modifyCell, board_modifyCell,
    Board.ground_modify _ _ (Cell.ground_setAnt · id),
    Board.ground_modify _ _ Cell.ground_removeAnt]

/-- After a move the ant stands on the cell that it has entered, and everybody else where he
stood. -/
theorem stands_relocate_iff (hant : game.ant? id = some ant) (halive : ant.alive = true)
    {i id' : Nat} :
    (∃ ant', (game.relocate id ant dest).ant? id' = some ant' ∧ ant'.alive = true ∧
        ant'.pos = i) ↔
      if id = id' then dest = i
      else ∃ ant', game.ant? id' = some ant' ∧ ant'.alive = true ∧ ant'.pos = i := by
  rw [ant?_relocate]
  split
  next hid =>
    subst hid
    rw [hant]
    constructor
    · rintro ⟨_, hmoved, -, hpos⟩
      obtain rfl := Option.some.inj hmoved
      exact hpos
    · rintro rfl
      exact ⟨_, rfl, halive, rfl⟩
  next => rfl

/-- A living ant does not stand on the open cell ahead of it, which is empty. -/
theorem Agrees.pos_ne_of_openAhead? (h : game.Agrees) (hant : game.ant? id = some ant)
    (halive : ant.alive = true) (hopen : game.openAhead? ant = some dest) : ant.pos ≠ dest := by
  obtain ⟨-, destCell, hdest, havailable⟩ := openAhead?_eq_some_iff.1 hopen
  obtain ⟨ownCell, hown, -, hname⟩ := h.cell_of_alive hant halive
  rintro rfl
  obtain rfl := Option.some.inj (hown.symm.trans hdest)
  simp [(Cell.isAvailable_eq_true_iff.1 havailable).2] at hname

/-- After a move a cell names the ant if it has entered the cell, and anybody else who stood
there. -/
theorem Agrees.ant_relocate_iff (h : game.Agrees) (hant : game.ant? id = some ant)
    (halive : ant.alive = true) (hopen : game.openAhead? ant = some dest) {i id' : Nat}
    {cell' : Cell} (hcell' : (game.relocate id ant dest).board.cell? i = some cell') :
    cell'.ant = some id' ↔
      if id = id' then dest = i
      else ∃ ant', game.ant? id' = some ant' ∧ ant'.alive = true ∧ ant'.pos = i := by
  obtain ⟨-, destCell, hdest, havailable⟩ := openAhead?_eq_some_iff.1 hopen
  obtain ⟨hrock, hempty⟩ := Cell.isAvailable_eq_true_iff.1 havailable
  obtain ⟨ownCell, hown, -, hname⟩ := h.cell_of_alive hant halive
  have hne : ant.pos ≠ dest := h.pos_ne_of_openAhead? hant halive hopen
  rw [cell?_relocate] at hcell'
  by_cases hi : dest = i
  · -- On the new cell stands the ant that moved.
    subst hi
    simp only [hne, ↓reduceIte, hdest, Option.map_some, Option.some.injEq] at hcell'
    rw [← hcell', Cell.ant_setAnt hrock, Option.some.injEq]
    split
    next hid => exact iff_of_true hid rfl
    next hid =>
      refine iff_of_false hid fun hthere => ?_
      have hname' := (h.occupant_iff hdest).2 hthere
      simp [hempty] at hname'
  · simp only [hi, ↓reduceIte] at hcell'
    by_cases hi' : ant.pos = i
    · -- The old cell is left empty, for nobody else had stood there.
      subst hi'
      simp only [↓reduceIte, hown, Option.map_some, Option.some.injEq] at hcell'
      simp only [← hcell', Cell.ant_removeAnt, reduceCtorEq, false_iff]
      split
      next => exact hi
      next hid =>
        intro hthere
        have hname' := (h.occupant_iff hown).2 hthere
        exact hid (Option.some.inj (hname.symm.trans hname'))
    · -- Elsewhere nothing changes.
      simp only [hi', ↓reduceIte] at hcell'
      rw [h.occupant_iff hcell']
      split
      next hid =>
        subst hid
        refine iff_of_false ?_ hi
        rintro ⟨ant', hant', -, hpos'⟩
        obtain rfl : ant = ant' := Option.some.inj (hant.symm.trans hant')
        exact hi' hpos'
      next => rfl

/-- An ant that moves leaves its own cell and enters an empty one. -/
theorem Agrees.relocate (h : game.Agrees) (hant : game.ant? id = some ant)
    (halive : ant.alive = true) (hopen : game.openAhead? ant = some dest) :
    (game.relocate id ant dest).Agrees where
  occupant_iff hcell' :=
    (h.ant_relocate_iff hant halive hopen hcell').trans (stands_relocate_iff hant halive).symm
  grounded := by
    intro id' ant' hant'
    change (game.relocate id ant dest).ant? id' = some ant' at hant'
    -- The ant has entered a cell that is no rock, and the others are where they were.
    have hgrounded : ∃ cell, game.board.cell? ant'.pos = some cell ∧ cell.isRock = false := by
      rw [ant?_relocate] at hant'
      split at hant'
      · obtain ⟨_, -, rfl⟩ := Option.map_eq_some_iff.1 hant'
        obtain ⟨-, destCell, hdest, havailable⟩ := openAhead?_eq_some_iff.1 hopen
        exact ⟨destCell, hdest, (Cell.isAvailable_eq_true_iff.1 havailable).1⟩
      · exact h.grounded hant'
    obtain ⟨cell, hcell, hrock⟩ := hgrounded
    obtain ⟨cell', hcell', hground⟩ :=
      Board.exists_cell?_of_ground (ground_relocate game id ant dest) hcell
    exact ⟨cell', hcell', (Cell.isRock_eq_of_ground hground).trans hrock⟩
  empty_handed := by
    intro id' ant' hant' hdead
    change (game.relocate id ant dest).ant? id' = some ant' at hant'
    rw [ant?_relocate] at hant'
    split at hant'
    · obtain ⟨before, hbefore, rfl⟩ := Option.map_eq_some_iff.1 hant'
      have hempty := h.empty_handed (show game.ants[id']? = some before from hbefore) hdead
      exact hempty
    · exact h.empty_handed hant' hdead

/-- Every elementary change keeps board and ants in agreement. -/
theorem Change.agrees (hchange : Change game game') (h : game.Agrees) : game'.Agrees := by
  cases hchange with
  | enter id state =>
    exact h.modifyAnt id (fun _ => rfl) (fun _ => rfl) fun _ _ _ hempty => hempty
  | rest =>
    exact h.modifyAnt _ (fun _ => rfl) (fun _ => rfl) fun _ _ _ hempty => hempty
  | turn id side =>
    exact h.modifyAnt id (fun _ => rfl) (fun _ => rfl) fun _ _ _ hempty => hempty
  | draw bound => exact h
  | placeMark hant halive marker =>
    exact (h.modifyCell _ (by simp) (by simp)).recordAt ..
  | clearMark hant halive marker =>
    exact (h.modifyCell _ (by simp) (by simp)).recordAt ..
  | @takeFood _ ant hant halive hcan =>
    have htaken := h.modifyCell ant.pos Cell.ground_removeFood Cell.ant_removeFood
    apply Agrees.recordAt
    refine htaken.modifyAnt _ (fun _ => rfl) (fun _ => rfl) ?_
    -- The ant that takes up food is not a dead one.
    intro ant' hant' hdead
    obtain rfl := Option.some.inj (hant.symm.trans hant')
    simp [halive] at hdead
  | @layFood _ ant hant halive hfood =>
    have hlaid := h.modifyCell ant.pos (Cell.ground_depositFood · 1) (Cell.ant_depositFood · 1)
    apply Agrees.recordAt
    exact hlaid.modifyAnt _ (fun _ => rfl) (fun _ => rfl) fun _ _ _ _ => rfl
  | relocate hant halive hopen => exact h.relocate hant halive hopen
  | kill hsurrounded =>
    obtain ⟨ant, hant, halive, -⟩ := isSurrounded_eq_true_iff.1 hsurrounded
    exact h.kill hant halive

end Game

end Formicary
