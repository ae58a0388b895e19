import Formicary.Proofs.Game.Food
import Formicary.Proofs.Game.Move

/-!
# What a step touches

A step of an ant touches little of a game, and `Game.Touches` says what: at most one marker of the
ant's colony under it, the unit of food that it takes up or lays down there, the cells that it
leaves and enters, and, where somebody falls, the fallen and the food on their cells. Everything
else on the board and in the records of the others stays as it is.

The instructions but for moves change the cell of the ant and its record in one way, so there is one
lemma for all of them (`touches_modify`); what a move touches is read off its outcome
(`touches_move`). `step_touches` puts both together for all reachable states.
-/

namespace Formicary

namespace Cell

variable {color : Color}

/-- The cells have the same markers but for one, which may be set on the one and not on the
other. -/
def AlikeButFor (color : Color) (marker : Nat) (cell cell' : Cell) : Prop :=
  cell'.marks color ||| markBit marker = cell.marks color ||| markBit marker

/-- To set a marker changes no other. -/
theorem alikeButFor_addMarker (cell : Cell) (color : Color) (marker : Nat) :
    AlikeButFor color marker cell (cell.addMarker color marker) := by
  rw [AlikeButFor, addMarker]
  split
  · rw [marks_setMarks, UInt8.or_assoc, UInt8.or_self]
  · rfl

/-- To clear a marker changes no other. -/
theorem alikeButFor_removeMarker (cell : Cell) (color : Color) (marker : Nat) :
    AlikeButFor color marker cell (cell.removeMarker color marker) := by
  rw [AlikeButFor, removeMarker]
  split
  · rw [marks_setMarks]
    -- Bit by bit: once the bit of the marker is set, it makes no difference whether it was cleared.
    apply UInt8.toBitVec_inj.1
    ext i hi
    simp [Bool.or_and_distrib_right]
  · rfl

/-- A change of cells is of one marker of a colony at most. -/
def MarksOnce (color : Color) (f : Cell → Cell) : Prop :=
  ∃ marker < markerCount, ∀ cell other, (f cell).marks other = cell.marks other ∨
    other = color ∧ AlikeButFor color marker cell (f cell)

/-- A change that leaves all markers alone. -/
theorem marksOnce_of_marks_eq {f : Cell → Cell} (hf : ∀ cell, (f cell).marks = cell.marks) :
    MarksOnce color f :=
  ⟨0, by decide, fun cell other => .inl (congrFun (hf cell) other)⟩

/-- To set a marker changes one marker at most: one that does not exist is ignored. -/
theorem marksOnce_addMarker (color : Color) (marker : Nat) :
    MarksOnce color (·.addMarker color marker) := by
  obtain hmarker | hmarker := Nat.lt_or_ge marker markerCount
  · refine ⟨marker, hmarker, fun cell other => ?_⟩
    by_cases hother : other = color
    · exact .inr ⟨hother, alikeButFor_addMarker cell color marker⟩
    · exact .inl (marks_addMarker_of_ne hother marker)
  · -- There is no such marker to set.
    exact marksOnce_of_marks_eq fun cell => by rw [addMarker_of_le hmarker]

/-- To clear a marker changes one marker at most. -/
theorem marksOnce_removeMarker (color : Color) (marker : Nat) :
    MarksOnce color (·.removeMarker color marker) := by
  obtain hmarker | hmarker := Nat.lt_or_ge marker markerCount
  · refine ⟨marker, hmarker, fun cell other => ?_⟩
    by_cases hother : other = color
    · exact .inr ⟨hother, alikeButFor_removeMarker cell color marker⟩
    · exact .inl (marks_removeMarker_of_ne hother marker)
  · exact marksOnce_of_marks_eq fun cell => by rw [removeMarker_of_le hmarker]

end Cell

namespace Game

variable {game game' after after' : Game} {id : Nat} {ant : Ant}

/-- An ant that lived is dead afterwards, and its record is on the given cell. -/
def FellAt (game after : Game) (victim : Ant) (i : Nat) : Prop :=
  ∃ id fallen, game.ant? id = some victim ∧ victim.alive = true ∧
    after.ant? id = some fallen ∧ fallen.alive = false ∧ fallen.pos = i

/-- Nobody falls where everybody who lived lives. -/
theorem not_fellAt (h : ∀ other occupant, game.ant? other = some occupant →
      occupant.alive = true → ∃ now, after.ant? other = some now ∧ now.alive = true)
    (victim : Ant) (i : Nat) : ¬FellAt game after victim i := by
  rintro ⟨other, fallen, hvictim, hlived, hfallen, hdead, -⟩
  obtain ⟨now, hnow, hlives⟩ := h other victim hvictim hlived
  obtain rfl := Option.some.inj (hnow.symm.trans hfallen)
  simp [hlives] at hdead

/-- A change of an ant that neither moves it nor kills it makes nobody fall. -/
theorem fellAt_modifyAnt_iff (id : Nat) {f : Ant → Ant} (hpos : ∀ ant, (f ant).pos = ant.pos)
    (halive : ∀ ant, (f ant).alive = ant.alive) {victim : Ant} {i : Nat} :
    FellAt game (after.modifyAnt id f) victim i ↔ FellAt game after victim i := by
  constructor
  · rintro ⟨other, fallen, hvictim, hlived, hfallen, hdead, hthere⟩
    rw [ant?_modifyAnt] at hfallen
    split at hfallen
    · obtain ⟨fallen, hbefore, rfl⟩ := Option.map_eq_some_iff.1 hfallen
      exact ⟨other, fallen, hvictim, hlived, hbefore, (halive fallen).symm.trans hdead,
        (hpos fallen).symm.trans hthere⟩
    · exact ⟨other, fallen, hvictim, hlived, hfallen, hdead, hthere⟩
  · rintro ⟨other, fallen, hvictim, hlived, hfallen, hdead, hthere⟩
    by_cases hid : id = other
    · refine ⟨other, f fallen, hvictim, hlived, ?_, (halive fallen).trans hdead,
        (hpos fallen).trans hthere⟩
      rw [ant?_modifyAnt, if_pos hid, hfallen, Option.map_some]
    · refine ⟨other, fallen, hvictim, hlived, ?_, hdead, hthere⟩
      rw [ant?_modifyAnt, if_neg hid, hfallen]

/-- What may differ after an ant has done something. -/
structure Touches (game : Game) (id : Nat) (ant : Ant) (after : Game) : Prop where
  /-- The terrain, the places and the links of the cells are the same. -/
  ground_eq : after.board.ground = game.board.ground
  /-- The markers are the same, but for one of the ant's colony under the ant. -/
  marks_eq : ∃ marker < markerCount, ∀ {i : Nat} {cell cell' : Cell},
    game.board.cell? i = some cell → after.board.cell? i = some cell' → ∀ color,
      cell'.marks color = cell.marks color ∨
        i = ant.pos ∧ color = ant.color ∧ Cell.AlikeButFor ant.color marker cell cell'
  /-- Where somebody falls, there is more food by what every dead ant leaves and what the ant
  carried. -/
  food_of_fell : ∀ {i : Nat} {cell cell' : Cell} {victim : Ant},
    game.board.cell? i = some cell → after.board.cell? i = some cell' →
      FellAt game after victim i →
        cell'.food.toNat = cell.food.toNat + (deathFood + victim.food)
  /-- Elsewhere the food is the same, but for a unit that the ant has taken up under it or laid
  down there. -/
  food_eq : ∀ {i : Nat} {cell cell' : Cell},
    game.board.cell? i = some cell → after.board.cell? i = some cell' →
      (∀ victim, ¬FellAt game after victim i) →
        cell'.food = cell.food ∨
          i = ant.pos ∧ ∃ ant', after.ant? id = some ant' ∧ ant'.hasFood ≠ ant.hasFood ∧
            cell'.food.toNat + ant'.food = cell.food.toNat + ant.food
  /-- The same ants stand on the cells, but for the cell that the ant has left, the cell that it has
  entered, and those where somebody falls. -/
  occupant_eq : ∀ {i : Nat} {cell cell' : Cell},
    game.board.cell? i = some cell → after.board.cell? i = some cell' →
      cell'.ant = cell.ant ∨
        (∃ ant', after.ant? id = some ant' ∧ ant'.pos ≠ ant.pos ∧ (i = ant.pos ∨ i = ant'.pos)) ∨
          ∃ victim, FellAt game after victim i
  /-- The record of every other ant is the same, unless it was an enemy next to the cell that the
  ant has entered and has died. -/
  ant?_eq : ∀ {other : Nat} {occupant : Ant}, other ≠ id → game.ant? other = some occupant →
    after.ant? other = some occupant ∨
      occupant.alive = true ∧ occupant.color ≠ ant.color ∧
        after.ant? other = some occupant.die ∧
          ∃ ant' d, after.ant? id = some ant' ∧ ant'.pos ≠ ant.pos ∧
            game.board.neighbor? ant'.pos d = some occupant.pos
  /-- No ant comes or goes. -/
  size_eq : after.ants.size = game.ants.size

/-- Whoever does nothing touches nothing. -/
theorem Touches.refl (game : Game) (id : Nat) (ant : Ant) : Touches game id ant game where
  ground_eq := rfl
  marks_eq := by
    refine ⟨0, by decide, fun hcell hcell' color => .inl ?_⟩
    rw [Option.some.inj (hcell.symm.trans hcell')]
  food_of_fell _ _ hvictim :=
    (not_fellAt (fun _ occupant hoccupant hlives => ⟨occupant, hoccupant, hlives⟩) _ _ hvictim).elim
  food_eq hcell hcell' _ := by
    rw [Option.some.inj (hcell.symm.trans hcell')]
    exact .inl rfl
  occupant_eq hcell hcell' := by
    rw [Option.some.inj (hcell.symm.trans hcell')]
    exact .inl rfl
  ant?_eq _ hoccupant := .inl hoccupant
  size_eq := rfl

/-- Neither the generator nor the recorder matters. -/
theorem Touches.of_eq (h : Touches game id ant after) (hboard : after'.board = after.board)
    (hants : after'.ants = after.ants) : Touches game id ant after' := by
  have hant? : after'.ant? = after.ant? := by
    funext other
    rw [ant?, ant?, hants]
  have hfell (victim : Ant) (i : Nat) :
      FellAt game after' victim i ↔ FellAt game after victim i := by
    rw [FellAt, FellAt, hant?]
  constructor <;> simp only [hboard, hant?, hfell, hants]
  · exact h.ground_eq
  · exact h.marks_eq
  · exact h.food_of_fell
  · exact h.food_eq
  · exact h.occupant_eq
  · exact h.ant?_eq
  · exact h.size_eq

/-- What the ant itself does inwardly does not matter. -/
theorem Touches.modifyAnt (h : Touches game id ant after) {f : Ant → Ant}
    (hpos : ∀ ant, (f ant).pos = ant.pos) (halive : ∀ ant, (f ant).alive = ant.alive)
    (hfood : ∀ ant, (f ant).hasFood = ant.hasFood) :
    Touches game id ant (after.modifyAnt id f) := by
  have hself {ant' : Ant} (hant' : after.ant? id = some ant') :
      (after.modifyAnt id f).ant? id = some (f ant') := by
    rw [ant?_modifyAnt, if_pos rfl, hant', Option.map_some]
  have hother {other : Nat} (hne : other ≠ id) :
      (after.modifyAnt id f).ant? other = after.ant? other := by
    rw [ant?_modifyAnt, if_neg hne.symm]
  -- The record of the ant changes in nothing that says whether it has fallen, and where.
  have hfell (victim : Ant) (i : Nat) :
      FellAt game (after.modifyAnt id f) victim i ↔ FellAt game after victim i :=
    fellAt_modifyAnt_iff id hpos halive
  exact {
    ground_eq := h.ground_eq
    marks_eq := h.marks_eq
    food_of_fell := fun hcell hcell' hvictim =>
      h.food_of_fell hcell hcell' ((hfell _ _).1 hvictim)
    food_eq := by
      intro i cell cell' hcell hcell' hnobody
      have hnobody' (victim : Ant) : ¬FellAt game after victim i :=
        fun hvictim => hnobody victim ((hfell _ _).2 hvictim)
      rcases h.food_eq hcell hcell' hnobody' with hsame | ⟨hi, ant', hant', hne, hsum⟩
      · exact .inl hsame
      · refine .inr ⟨hi, f ant', hself hant', by rwa [hfood], ?_⟩
        rwa [Ant.food, hfood, ← Ant.food]
    occupant_eq := by
      intro i cell cell' hcell hcell'
      rcases h.occupant_eq hcell hcell' with hsame | ⟨ant', hant', hne, hi⟩ | ⟨victim, hvictim⟩
      · exact .inl hsame
      · exact .inr (.inl ⟨f ant', hself hant', by rwa [hpos], by rwa [hpos]⟩)
      · exact .inr (.inr ⟨victim, (hfell _ _).2 hvictim⟩)
    ant?_eq := by
      intro other occupant hne hoccupant
      rw [hother hne]
      rcases h.ant?_eq hne hoccupant with
        hsame | ⟨hlives, hcolor, hdies, ant', d, hant', hmoved, hlink⟩
      · exact .inl hsame
      · exact .inr ⟨hlives, hcolor, hdies, f ant', d, hself hant', by rwa [hpos], by rwa [hpos]⟩
    size_eq := (Array.size_modify ..).trans h.size_eq }

/-- An ant that stays where it is may change the cell under it and its own record. -/
theorem touches_modify (hant : game.ant? id = some ant) {f : Cell → Cell} {g : Ant → Ant}
    (hground : ∀ cell, (f cell).ground = cell.ground) (hoccupant : ∀ cell, (f cell).ant = cell.ant)
    (hmarks : Cell.MarksOnce ant.color f)
    (hfood : ∀ cell, game.board.cell? ant.pos = some cell → (f cell).food = cell.food ∨
      (g ant).hasFood ≠ ant.hasFood ∧
        (f cell).food.toNat + (g ant).food = cell.food.toNat + ant.food)
    (halive : (g ant).alive = ant.alive) :
    Touches game id ant ((game.modifyCell ant.pos f).modifyAnt id g) := by
  have hself : ((game.modifyCell ant.pos f).modifyAnt id g).ant? id = some (g ant) := by
    rw [ant?_modifyAnt, if_pos rfl, ant?_modifyCell, hant, Option.map_some]
  have hother {other : Nat} (hne : other ≠ id) :
      ((game.modifyCell ant.pos f).modifyAnt id g).ant? other = game.ant? other := by
    rw [ant?_modifyAnt, if_neg hne.symm, ant?_modifyCell]
  -- A cell is the one that it was or the one under the ant.
  have hcells {i : Nat} {cell cell' : Cell} (hcell : game.board.cell? i = some cell)
      (hcell' : ((game.modifyCell ant.pos f).modifyAnt id g).board.cell? i = some cell') :
      cell' = cell ∨ i = ant.pos ∧ cell' = f cell := by
    rw [board_modifyAnt, board_modifyCell, Board.cell?_modify] at hcell'
    split at hcell'
    next hi =>
      rw [hcell, Option.map_some, Option.some.injEq] at hcell'
      exact .inr ⟨hi.symm, hcell'.symm⟩
    next => exact .inl (Option.some.inj (hcell'.symm.trans hcell))
  -- Nobody falls: the ant lives if it lived, and the others are as before.
  have hnobody (victim : Ant) (i : Nat) :
      ¬FellAt game ((game.modifyCell ant.pos f).modifyAnt id g) victim i := by
    refine not_fellAt (fun other occupant hoccupant hlives => ?_) victim i
    by_cases hne : other = id
    · subst hne
      obtain rfl := Option.some.inj (hant.symm.trans hoccupant)
      exact ⟨g ant, hself, halive.trans hlives⟩
    · exact ⟨occupant, (hother hne).trans hoccupant, hlives⟩
  exact {
    ground_eq := Board.ground_modify _ _ hground
    marks_eq := by
      obtain ⟨marker, hmarker, hmarks⟩ := hmarks
      refine ⟨marker, hmarker, fun hcell hcell' color => ?_⟩
      rcases hcells hcell hcell' with rfl | ⟨hi, rfl⟩
      · exact .inl rfl
      · exact (hmarks _ color).imp_right fun h => ⟨hi, h⟩
    food_of_fell := fun _ _ hvictim => (hnobody _ _ hvictim).elim
    food_eq := by
      intro i cell cell' hcell hcell' _
      rcases hcells hcell hcell' with rfl | ⟨rfl, rfl⟩
      · exact .inl rfl
      · exact (hfood cell hcell).imp_right fun h => ⟨rfl, g ant, hself, h⟩
    occupant_eq := by
      intro i cell cell' hcell hcell'
      rcases hcells hcell hcell' with rfl | ⟨-, rfl⟩
      · exact .inl rfl
      · exact .inl (hoccupant cell)
    ant?_eq := fun hne hoccupant => .inl ((hother hne).trans hoccupant)
    size_eq := Array.size_modify .. }

/-- An ant may set and clear a marker under it. -/
theorem touches_mark (hant : game.ant? id = some ant) {f : Cell → Cell}
    (hground : ∀ cell, (f cell).ground = cell.ground) (hoccupant : ∀ cell, (f cell).ant = cell.ant)
    (hmarks : Cell.MarksOnce ant.color f) (hfood : ∀ cell, (f cell).food = cell.food)
    (event : Cell → Event) :
    Touches game id ant ((game.modifyCell ant.pos f).recordAt ant.pos event) := by
  have hchanged := touches_modify hant (g := fun ant => ant) hground hoccupant hmarks
    (fun cell _ => .inl (hfood cell)) rfl
  refine hchanged.of_eq (board_recordAt ..) ?_
  rw [ants_recordAt]
  exact (array_modify_id _ _).symm

/-- An ant may take up a unit of the food under it. -/
theorem touches_takeFood (hant : game.ant? id = some ant) (hcan : game.canPickUp ant = true) :
    Touches game id ant (game.takeFood id ant) := by
  obtain ⟨hempty, hany⟩ := Bool.and_eq_true_iff.1 hcan
  obtain ⟨cell, hcell, hfood⟩ := (Option.any_eq_true ..).1 hany
  have hnone : ant.hasFood = false := by simpa using hempty
  have hless := Cell.toNat_food_removeFood hfood
  have hchanged := touches_modify hant (f := Cell.removeFood)
    (g := ({ · with hasFood := true })) (by simp) (by simp)
    (Cell.marksOnce_of_marks_eq Cell.marks_removeFood) (fun cell' hcell' => by
      obtain rfl := Option.some.inj (hcell.symm.trans hcell')
      refine .inr ⟨by simp [hnone], ?_⟩
      rw [Ant.food, Ant.food, hnone]
      exact hless) rfl
  exact hchanged.of_eq (board_recordAt ..) (ants_recordAt ..)

/-- An ant may lay down the unit that it carries: the stock of food leaves room for it. -/
theorem touches_layFood {stock : Nat} (h : game.Stocked stock) (hant : game.ant? id = some ant)
    (halive : ant.alive = true) (hcarried : ant.hasFood = true) :
    Touches game id ant (game.layFood id ant) := by
  obtain ⟨cell, hcell, hrock, -⟩ := h.agrees.cell_of_alive hant halive
  have hroom := h.food_add_lt hant halive hcell
  have hone : ant.food = 1 := by rw [Ant.food, if_pos hcarried]
  have hmore : (cell.depositFood 1).food.toNat = cell.food.toNat + 1 :=
    Cell.toNat_food_depositFood hrock (by change _ + 1 < _; omega)
  have hchanged := touches_modify hant (f := (·.depositFood 1))
    (g := ({ · with hasFood := false })) (by simp) (by simp)
    (Cell.marksOnce_of_marks_eq (Cell.marks_depositFood · 1)) (fun cell' hcell' => by
      obtain rfl := Option.some.inj (hcell.symm.trans hcell')
      refine .inr ⟨by simp [hcarried], ?_⟩
      rw [Ant.food, Ant.food, hcarried]
      exact hmore) rfl
  exact hchanged.of_eq (board_recordAt ..) (ants_recordAt ..)

/-- To move an ant touches neither food nor markers, and of the occupants those of two cells. -/
theorem cell?_relocate_cases {dest i : Nat} {cell moved : Cell}
    (hcell : game.board.cell? i = some cell)
    (hmoved : (game.relocate id ant dest).board.cell? i = some moved) :
    moved.food = cell.food ∧ moved.marks = cell.marks ∧
      (moved.ant = cell.ant ∨ i = ant.pos ∨ i = dest) := by
  have hleft : cell.removeAnt.marks = cell.marks := funext (Cell.marks_removeAnt cell)
  rw [cell?_relocate, hcell] at hmoved
  simp only [Option.map_some] at hmoved
  split at hmoved
  next hdest =>
    split at hmoved
    all_goals
      obtain rfl := Option.some.inj hmoved
      exact ⟨by simp, by simp [hleft], .inr (.inr hdest.symm)⟩
  next =>
    split at hmoved
    next hpos =>
      obtain rfl := Option.some.inj hmoved
      exact ⟨rfl, hleft, .inr (.inl hpos.symm)⟩
    next =>
      obtain rfl := Option.some.inj hmoved
      exact ⟨rfl, rfl, .inl rfl⟩

section Move

variable {dest : Nat} (hwired : game.board.Wired) (hant : game.ant? id = some ant)
  (halive : ant.alive = true) (hopen : game.openAhead? ant = some dest)

include hwired hant halive hopen

/-- In a move the fallen fall, on the cells where they are right after the move. -/
theorem fellAt_move_iff (h : game.Agrees) (i : Nat) (victim : Ant) :
    FellAt game ((game.relocate id ant dest).resolveCombat id) victim i ↔
      ∃ other ∈ game.fallen id ant dest, ∃ moved,
        (game.relocate id ant dest).ant? other = some moved ∧ moved.pos = i ∧
          game.ant? other = some victim := by
  constructor
  · rintro ⟨other, fallen, hvictim, hlives, hfallen, hdead, rfl⟩
    rw [ant?_move hwired h hant halive hopen] at hfallen
    split at hfallen
    next hmem =>
      obtain ⟨moved, hmoved, rfl⟩ := Option.map_eq_some_iff.1 hfallen
      exact ⟨other, hmem, moved, hmoved, rfl, hvictim⟩
    next =>
      -- Whoever does not fall lives as before.
      obtain ⟨before, hbefore, -, halive', -⟩ := exists_ant?_of_relocate hant hfallen
      obtain rfl := Option.some.inj (hvictim.symm.trans hbefore)
      simp [halive', hlives] at hdead
  · rintro ⟨other, hmem, moved, hmoved, rfl, hvictim⟩
    obtain ⟨_, hsame, hlives, -⟩ := mem_fallen h hant halive hopen hmem
    obtain rfl := Option.some.inj (hmoved.symm.trans hsame)
    obtain ⟨before, hbefore, -, halive', -⟩ := exists_ant?_of_relocate hant hmoved
    obtain rfl := Option.some.inj (hvictim.symm.trans hbefore)
    refine ⟨other, moved.die, hvictim, halive'.symm.trans hlives, ?_, rfl, rfl⟩
    rw [ant?_move hwired h hant halive hopen, if_pos hmem, hmoved, Option.map_some]

/-- Where nobody falls in a move, the cell is what the move has made of it. -/
theorem cell?_relocate_of_nobody (h : game.Agrees) {i : Nat} {cell' : Cell}
    (hcell' : ((game.relocate id ant dest).resolveCombat id).board.cell? i = some cell')
    (hnobody : ∀ victim,
      ¬FellAt game ((game.relocate id ant dest).resolveCombat id) victim i) :
    (game.relocate id ant dest).board.cell? i = some cell' := by
  obtain ⟨moved, hmoved, ⟨rfl, -⟩ | ⟨other, hmem, occupant, hoccupant, hpos, -⟩⟩ :=
    cell?_move hwired h hant halive hopen hcell'
  · exact hmoved
  · obtain ⟨victim, hvictim, -⟩ := exists_ant?_of_relocate hant hoccupant
    exact absurd ((fellAt_move_iff hwired hant halive hopen h i victim).2
      ⟨other, hmem, occupant, hoccupant, hpos, hvictim⟩) (hnobody victim)

/-- Where somebody falls in a move, there is more food by what it leaves. -/
theorem food_of_fellAt_move {stock : Nat} (h : game.Stocked stock) {i : Nat} {cell cell' : Cell}
    {victim : Ant} (hcell : game.board.cell? i = some cell)
    (hcell' : ((game.relocate id ant dest).resolveCombat id).board.cell? i = some cell')
    (hvictim : FellAt game ((game.relocate id ant dest).resolveCombat id) victim i) :
    cell'.food.toNat = cell.food.toNat + (deathFood + victim.food) := by
  have hmoved := (Change.relocate hant halive hopen).stocked h
  obtain ⟨other, hmem, occupant, hoccupant, rfl, hrecord⟩ :=
    (fellAt_move_iff hwired hant halive hopen h.agrees i victim).1 hvictim
  obtain ⟨moved, hbefore, hcase⟩ := cell?_move hwired h.agrees hant halive hopen hcell'
  rw [← (cell?_relocate_cases hcell hbefore).1]
  obtain ⟨other', hmem', occupant', hoccupant', hpos, rfl⟩ :=
    hcase.resolve_left fun hsame => hsame.2 other hmem occupant hoccupant rfl
  -- No two of the fallen share a cell.
  obtain ⟨_, hsame, hlives, -⟩ := mem_fallen h.agrees hant halive hopen hmem
  obtain rfl := Option.some.inj (hoccupant.symm.trans hsame)
  obtain ⟨_, hsame', hlives', -⟩ := mem_fallen h.agrees hant halive hopen hmem'
  obtain rfl := Option.some.inj (hoccupant'.symm.trans hsame')
  obtain rfl : other = other' :=
    hmoved.agrees.eq_of_pos_eq hoccupant hlives hoccupant' hlives' hpos.symm
  obtain rfl := Option.some.inj (hoccupant.symm.trans hoccupant')
  -- The cell is no rock and has room for the food.
  obtain ⟨solid, hsolid, hrock, -⟩ := hmoved.agrees.cell_of_alive hoccupant hlives
  obtain rfl := Option.some.inj (hbefore.symm.trans hsolid)
  have hroom := hmoved.food_add_lt hoccupant hlives hbefore
  obtain ⟨before, hrecord', -, -, hfood⟩ := exists_ant?_of_relocate hant hoccupant
  obtain rfl := Option.some.inj (hrecord.symm.trans hrecord')
  have hcarried : occupant.food = victim.food := by rw [Ant.food, hfood, ← Ant.food]
  rw [Cell.food_removeAnt, Cell.toNat_food_depositFood hrock (by rwa [toNat_deathAmount]),
    toNat_deathAmount, hcarried]

/-- A move touches the cell that the ant leaves, the cell that it enters, and the fallen with their
cells. -/
theorem touches_move {stock : Nat} (h : game.Stocked stock) :
    Touches game id ant ((game.relocate id ant dest).resolveCombat id) := by
  -- The record of the mover, whether or not it has fallen.
  obtain ⟨mover, hmover, hplace⟩ : ∃ mover,
      ((game.relocate id ant dest).resolveCombat id).ant? id = some mover ∧ mover.pos = dest := by
    rw [ant?_move hwired h.agrees hant halive hopen, ant?_relocate_self hant]
    split
    · exact ⟨_, rfl, rfl⟩
    · exact ⟨_, rfl, rfl⟩
  have hleft : mover.pos ≠ ant.pos := by
    rw [hplace]
    exact (ne_of_openAhead? hwired hopen).symm
  exact {
    ground_eq := by
      rw [resolveCombat_relocate hwired h.agrees hant halive hopen, ground_foldl_kill]
      exact ground_relocate game id ant dest
    marks_eq := by
      -- Neither the move nor what the fallen leave touches a marker.
      refine ⟨0, by decide, fun hcell hcell' color => .inl ?_⟩
      obtain ⟨moved, hbefore, hcase⟩ := cell?_move hwired h.agrees hant halive hopen hcell'
      rw [← (cell?_relocate_cases hcell hbefore).2.1]
      rcases hcase with ⟨rfl, -⟩ | ⟨-, -, victim, -, -, rfl⟩
      · rfl
      · rw [Cell.marks_removeAnt, Cell.marks_depositFood]
    food_of_fell := food_of_fellAt_move hwired hant halive hopen h
    food_eq := by
      intro i cell cell' hcell hcell' hnobody
      have hmoved := cell?_relocate_of_nobody hwired hant halive hopen h.agrees hcell' hnobody
      exact .inl (cell?_relocate_cases hcell hmoved).1
    occupant_eq := by
      intro i cell cell' hcell hcell'
      by_cases hfell :
          ∃ victim, FellAt game ((game.relocate id ant dest).resolveCombat id) victim i
      · exact .inr (.inr hfell)
      · have hmoved := cell?_relocate_of_nobody hwired hant halive hopen h.agrees hcell'
          (not_exists.1 hfell)
        refine (cell?_relocate_cases hcell hmoved).2.2.imp_right fun hi => .inl ?_
        exact ⟨mover, hmover, hleft, by rwa [hplace]⟩
    ant?_eq := by
      intro other occupant hne hoccupant
      have hmoved : (game.relocate id ant dest).ant? other = some occupant :=
        (ant?_relocate_of_ne hne).trans hoccupant
      rw [ant?_move hwired h.agrees hant halive hopen, hmoved]
      split
      next hmem =>
        obtain ⟨_, hsame, hlives, hcase⟩ := mem_fallen h.agrees hant halive hopen hmem
        obtain rfl := Option.some.inj (hmoved.symm.trans hsame)
        -- Who falls and is not the mover is an enemy next to it.
        obtain ⟨hcolor, d, hlink⟩ := hcase.resolve_left hne
        refine .inr ⟨hlives, hcolor, rfl, mover, d, hmover, hleft, ?_⟩
        rwa [hplace]
      next => exact .inl rfl
    size_eq := by
      refine (changes_settle _ _).keep (P := fun game' => game'.ants.size = game.ants.size)
        (fun hchange ih => hchange.size_ants.trans ih) ?_
      exact (Change.relocate hant halive hopen).size_ants }

end Move

/-- What an instruction of an ant touches. -/
theorem Effect.touches {stock : Nat} {instruction : Instruction}
    (heffect : Effect game id ant instruction game') (hwired : game.board.Wired)
    (h : game.Stocked stock) (hant : game.ant? id = some ant) (halive : ant.alive = true) :
    Touches game id ant game' := by
  cases heffect with
  | nothing => exact .refl game id ant
  | placeMark =>
    exact touches_mark hant (by simp) (by simp) (Cell.marksOnce_addMarker ..) (by simp) _
  | clearMark =>
    exact touches_mark hant (by simp) (by simp) (Cell.marksOnce_removeMarker ..) (by simp) _
  | takeFood _ _ hcan => exact touches_takeFood hant hcan
  | layFood _ hcarried => exact touches_layFood h hant halive hcarried
  | turn => exact (Touches.refl game id ant).modifyAnt (by simp) (by simp) (by simp)
  | move _ _ hopen => exact touches_move hwired hant halive hopen h
  | draw => exact (Touches.refl game id ant).of_eq rfl rfl

/-- An ant touches no more when it rests, or when it notes its next state. -/
theorem Step.touches {stock : Nat} (hstep : Step game id game') (hwired : game.board.Wired)
    (h : game.Stocked stock) (hant : game.ant? id = some ant) : Touches game id ant game' := by
  cases hstep with
  | idle => exact .refl game id ant
  | rest => exact (Touches.refl game id ant).modifyAnt (by simp) (by simp) (by simp)
  | act state hant' halive _ heffect =>
    obtain rfl := Option.some.inj (hant.symm.trans hant')
    have hexecuted := heffect.touches hwired h hant halive
    exact hexecuted.modifyAnt (by simp) (by simp) (by simp)

/-- What a step of an ant touches. -/
theorem touches_stepAnt {stock : Nat} (hwired : game.board.Wired) (h : game.Stocked stock)
    (hant : game.ant? id = some ant) : Touches game id ant (game.stepAnt id) :=
  (step_stepAnt game id).touches hwired h hant

variable {redBrain blackBrain : Brain} {board : Board} {rng : Rng}

/-- In every reachable state of a game on a vacant board with little enough food, a step touches no
more than `Touches` says; the step of a dead ant changes nothing, and the step of a resting ant
counts down its rest and changes nothing else. -/
theorem step_touches (hwired : board.Wired) (hvacant : board.Vacant)
    (hroom : board.totalFood + deathFood * (start redBrain blackBrain board rng).ants.size <
      UInt32.size)
    (hreach : Reachable (start redBrain blackBrain board rng) game)
    (hant : game.ant? id = some ant) :
    Touches game id ant (game.stepAnt id) ∧
      (ant.alive = false → game.stepAnt id = game) ∧
      (ant.alive = true → ant.isResting = true →
        game.stepAnt id =
          game.modifyAnt id fun ant => { ant with resting := ant.resting - 1 }) := by
  have hwired' : game.board.Wired :=
    hwired.of_ground (hreach.ground.trans (ground_start redBrain blackBrain board rng))
  refine ⟨touches_stepAnt hwired' (hreach.stocked (stocked_start hvacant hroom)) hant,
    stepAnt_of_dead hant, fun halive hresting => ?_⟩
  simp [stepAnt, hant, halive, hresting]

/-- In the siege the second red ant steps to the black one and completes the ring. The step touches
what it may, and the black ant falls, where three units of food are left. -/
theorem step_touches_siege :
    let game := siege.stepAnt 0
    let ant : Ant := { id := 1, color := .red, pos := 10 }
    game.ant? 1 = some ant ∧ Touches game 1 ant (game.stepAnt 1) ∧
      FellAt game (game.stepAnt 1) { id := 2, color := .black, pos := 12 } 12 ∧
      ((game.stepAnt 1).board.cell? 12).map (·.food) = some 3 := by
  intro game ant
  have hant : game.ant? 1 = some ant := by decide +kernel
  have hroom :
      (Board.ofMap siegeWorld).totalFood + deathFood * siege.ants.size < UInt32.size := by
    decide +kernel
  have htouches := step_touches (Board.wired_ofMap siegeWorld) (Board.vacant_ofMap siegeWorld) hroom
    (.stepAnt 0 .refl) hant
  refine ⟨hant, htouches.1, ⟨2, ?_⟩, by decide +kernel⟩
  exact ⟨Ant.die { id := 2, color := .black, pos := 12 }, by decide +kernel, rfl,
    by decide +kernel, rfl, rfl⟩

end Game

end Formicary
