import Formicary.Proofs.Game.Occupancy

/-!
# What no step changes

The ground of the board, the brains, and the number and colony of every ant stay as they are from
the start of a game on (`Reachable.ground`, `Reachable.badges`, `Reachable.brain`). In particular
no ant is ever added or removed. Rock stays bare (`Change.rockBare`). The whole record of a dead
ant stays as it is from the end of the step on in which the ant died (`Reachable.ant?_of_dead`).
-/

namespace Formicary

/-- What an ant keeps for life: its number and its colony. -/
def Ant.badge (ant : Ant) : Nat × Color := (ant.id, ant.color)

namespace Game

variable {first game game' : Game} {id : Nat} {ant : Ant}

/-- The badges of all ants, by number. -/
def badges (game : Game) : Array (Nat × Color) := game.ants.map Ant.badge

/-- Changing an ant but for its badge changes no badge. -/
theorem badges_modifyAnt (game : Game) (id : Nat) {f : Ant → Ant}
    (hf : ∀ ant, (f ant).badge = ant.badge) : (game.modifyAnt id f).badges = game.badges := by
  rw [badges, badges, modifyAnt]
  ext j hj hj'
  · simp
  · simp only [Array.getElem_map, Array.getElem_modify]
    split
    · rw [hf]
    · rfl
  · simp only [Array.getElem_map, Array.getElem_modify]
    split
    · rw [hf]
    · rfl

@[simp]
theorem badges_modifyCell (game : Game) (i : Nat) (f : Cell → Cell) :
    (game.modifyCell i f).badges = game.badges := rfl

@[simp]
theorem badges_recordAt (game : Game) (i : Nat) (event : Cell → Event) :
    (game.recordAt i event).badges = game.badges := by
  rw [badges, ants_recordAt, badges]

@[simp]
theorem brain_modifyAnt (game : Game) (id : Nat) (f : Ant → Ant) :
    (game.modifyAnt id f).brain = game.brain := rfl

@[simp]
theorem brain_modifyCell (game : Game) (i : Nat) (f : Cell → Cell) :
    (game.modifyCell i f).brain = game.brain := rfl

@[simp]
theorem brain_recordAt (game : Game) (i : Nat) (event : Cell → Event) :
    (game.recordAt i event).brain = game.brain := by
  obtain ⟨recorder, h⟩ := recordAt_eq game i event
  rw [h]
  rfl

/-- The ant with a number carries the badge with that number. -/
theorem badges_getElem? (game : Game) (id : Nat) :
    game.badges[id]? = (game.ant? id).map Ant.badge :=
  Array.getElem?_map ..

/-- No elementary change alters the ground. -/
theorem Change.ground (h : Change game game') : game'.board.ground = game.board.ground := by
  cases h with
  | enter | rest | turn | draw => rfl
  | placeMark hant halive marker =>
    simpa [Game.placeMark] using Board.ground_modify _ _ (Cell.ground_addMarker · _ marker)
  | clearMark hant halive marker =>
    simpa [Game.clearMark] using Board.ground_modify _ _ (Cell.ground_removeMarker · _ marker)
  | takeFood => simpa [Game.takeFood] using Board.ground_modify _ _ Cell.ground_removeFood
  | layFood => simpa [Game.layFood] using Board.ground_modify _ _ (Cell.ground_depositFood · 1)
  | @relocate id dest ant => exact ground_relocate game id ant dest
  | @kill id hsurrounded =>
    obtain ⟨ant, hant, -⟩ := isSurrounded_eq_true_iff.1 hsurrounded
    rw [Game.kill, hant]
    simpa using Board.ground_modify _ _ fun cell => by simp

/-- No elementary change alters a badge. -/
theorem Change.badges (h : Change game game') : game'.badges = game.badges := by
  cases h with
  | enter | rest | turn => exact badges_modifyAnt _ _ fun _ => rfl
  | draw => rfl
  | placeMark | clearMark => simp [Game.placeMark, Game.clearMark]
  | takeFood | layFood =>
    simp only [Game.takeFood, Game.layFood, badges_recordAt]
    exact badges_modifyAnt _ _ fun _ => rfl
  | relocate => exact badges_modifyAnt _ _ fun _ => rfl
  | @kill id hsurrounded =>
    obtain ⟨ant, hant, -⟩ := isSurrounded_eq_true_iff.1 hsurrounded
    simp only [Game.kill, hant, badges_recordAt]
    exact badges_modifyAnt _ _ fun _ => rfl

/-- No elementary change adds or removes an ant. -/
theorem Change.size_ants (h : Change game game') : game'.ants.size = game.ants.size := by
  have hbadges := congrArg Array.size h.badges
  rwa [Game.badges, Game.badges, Array.size_map, Array.size_map] at hbadges

/-- No elementary change alters a brain. -/
theorem Change.brain (h : Change game game') : game'.brain = game.brain := by
  cases h with
  | enter | rest | turn | draw | relocate => rfl
  | placeMark | clearMark | takeFood | layFood =>
    simp [Game.placeMark, Game.clearMark, Game.takeFood, Game.layFood]
  | @kill id hsurrounded =>
    obtain ⟨ant, hant, -⟩ := isSurrounded_eq_true_iff.1 hsurrounded
    simp [Game.kill, hant]

/-- No elementary change counts a tick. -/
theorem Change.ticks (h : Change game game') : game'.ticks = game.ticks := by
  have hrecordAt (game : Game) (i : Nat) (event : Cell → Event) :
      (game.recordAt i event).ticks = game.ticks := by
    obtain ⟨recorder, h⟩ := recordAt_eq game i event
    rw [h]
  cases h with
  | enter | rest | turn | draw | relocate => rfl
  | placeMark | clearMark | takeFood | layFood => exact hrecordAt ..
  | @kill id hsurrounded =>
    obtain ⟨ant, hant, -⟩ := isSurrounded_eq_true_iff.1 hsurrounded
    rw [Game.kill, hant]
    exact (hrecordAt ..).trans (hrecordAt ..)

/-- No step of an ant counts a tick. -/
theorem ticks_stepAnt (game : Game) (id : Nat) : (game.stepAnt id).ticks = game.ticks :=
  (changes_stepAnt game id).keep (P := fun after => after.ticks = game.ticks)
    (fun hchange ih => hchange.ticks.trans ih) rfl

/-- No elementary change puts anything on rock. -/
theorem Change.rockBare (h : Change game game') (hbare : game.board.RockBare) :
    game'.board.RockBare := by
  -- Bare rock has nothing on it to take away, and nothing can be put there.
  cases h with
  | enter | rest | turn | draw => exact hbare
  | @placeMark id next ant hant halive marker =>
    rw [Game.placeMark, board_recordAt]
    exact hbare.modify _ (Cell.ground_addMarker · _ marker)
      fun cell hrock _ => cell.addMarker_of_isRock hrock _ marker
  | @clearMark id next ant hant halive marker =>
    rw [Game.clearMark, board_recordAt]
    exact hbare.modify _ (Cell.ground_removeMarker · _ marker)
      fun cell _ hcell => hcell.removeMarker_eq _ marker
  | takeFood =>
    rw [Game.takeFood, board_recordAt]
    exact hbare.modify _ Cell.ground_removeFood fun cell _ hcell => hcell.removeFood_eq
  | layFood =>
    rw [Game.layFood, board_recordAt]
    exact hbare.modify _ (Cell.ground_depositFood · 1)
      fun cell hrock _ => cell.depositFood_of_isRock hrock 1
  | @relocate id dest ant =>
    have hleft := hbare.modify ant.pos Cell.ground_removeAnt fun cell _ hcell => hcell.removeAnt_eq
    exact hleft.modify dest (Cell.ground_setAnt · id)
      fun cell hrock _ => cell.setAnt_of_isRock hrock id
  | @kill id hsurrounded =>
    obtain ⟨ant, hant, -⟩ := isSurrounded_eq_true_iff.1 hsurrounded
    simp only [Game.kill, hant, board_recordAt]
    refine hbare.modify ant.pos (fun cell => by simp) fun cell hrock hcell => ?_
    rw [cell.depositFood_of_isRock hrock, hcell.removeAnt_eq]

/-- The ground stays as it is. -/
theorem Reachable.ground (h : Reachable first game) : game.board.ground = first.board.ground :=
  h.keep (P := fun game => game.board.ground = first.board.ground) rfl
    (fun hchange ih => hchange.ground.trans ih) (fun _ ih => ih) fun _ ih => ih

/-- Every ant keeps its number and its colony, and no ant comes or goes. -/
theorem Reachable.badges (h : Reachable first game) : game.badges = first.badges :=
  h.keep (P := fun game => game.badges = first.badges) rfl
    (fun hchange ih => hchange.badges.trans ih) (fun _ ih => ih) fun _ ih => ih

/-- The number of ants stays as it is. -/
theorem Reachable.size_ants (h : Reachable first game) : game.ants.size = first.ants.size := by
  have hbadges := congrArg Array.size h.badges
  rwa [Game.badges, Game.badges, Array.size_map, Array.size_map] at hbadges

/-- The brains stay as they are. -/
theorem Reachable.brain (h : Reachable first game) : game.brain = first.brain :=
  h.keep (P := fun game => game.brain = first.brain) rfl
    (fun hchange ih => hchange.brain.trans ih) (fun _ ih => ih) fun _ ih => ih

/-! ### The dead -/

section Dead

variable {other : Nat} {dead : Ant}

/-- Killing a surrounded ant does not touch who is dead already. -/
theorem ant?_kill_of_dead {victim : Nat} (hsurrounded : game.isSurrounded victim = true)
    (hother : game.ant? other = some dead) (hdead : dead.alive = false) :
    (game.kill victim).ant? other = some dead := by
  obtain ⟨ant, hant, halive, -⟩ := isSurrounded_eq_true_iff.1 hsurrounded
  have hne : victim ≠ other := by
    rintro rfl
    obtain rfl := Option.some.inj (hant.symm.trans hother)
    simp [hdead] at halive
  rw [ant?_kill hant, if_neg hne, hother]

/-- The instruction of one ant does not touch another one that is dead. -/
theorem Effect.ant?_of_dead {instruction : Instruction}
    (h : Effect game id ant instruction game') (hother : game.ant? other = some dead)
    (hdead : dead.alive = false) (hne : id ≠ other) : game'.ant? other = some dead := by
  cases h with
  | nothing | draw => exact hother
  | placeMark | clearMark => exact (ant?_recordAt ..).trans hother
  | takeFood | layFood =>
    refine (ant?_recordAt ..).trans ?_
    rw [ant?_modifyAnt, if_neg hne, ant?_modifyCell, hother]
  | turn => rw [ant?_modifyAnt, if_neg hne, hother]
  | @move dest =>
    have hmoved : (game.relocate id ant dest).ant? other = some dead := by
      rw [ant?_relocate, if_neg hne, hother]
    rw [resolveCombat]
    exact settle_keep (P := fun after => after.ant? other = some dead)
      (fun hsurrounded ih => ant?_kill_of_dead hsurrounded ih hdead) hmoved _

/-- No step touches an ant that is dead. -/
theorem Step.ant?_of_dead (h : Step game id game') (hother : game.ant? other = some dead)
    (hdead : dead.alive = false) : game'.ant? other = some dead := by
  -- The dead ant itself only steps idly, since an ant that rests or acts lives.
  have hne {ant : Ant} (hant : game.ant? id = some ant) (halive : ant.alive = true) :
      id ≠ other := by
    rintro rfl
    obtain rfl := Option.some.inj (hant.symm.trans hother)
    simp [hdead] at halive
  cases h with
  | idle => exact hother
  | rest hant halive => rw [ant?_modifyAnt, if_neg (hne hant halive), hother]
  | act state hant halive _ heffect =>
    rw [ant?_modifyAnt, if_neg (hne hant halive)]
    exact heffect.ant?_of_dead hother hdead (hne hant halive)

theorem ant?_stepAnt_of_dead (hother : game.ant? other = some dead) (hdead : dead.alive = false)
    (id : Nat) : (game.stepAnt id).ant? other = some dead :=
  (step_stepAnt game id).ant?_of_dead hother hdead

/-- The record of a dead ant stays as it is. -/
theorem Reachable.ant?_of_dead (h : Reachable game game') (hother : game.ant? other = some dead)
    (hdead : dead.alive = false) : game'.ant? other = some dead := by
  induction h with
  | refl => exact hother
  | stepAnt id _ ih => exact ant?_stepAnt_of_dead ih hdead id
  | count _ ih => exact ih
  | observe recorder _ ih => exact ih

end Dead

end Game

end Formicary
