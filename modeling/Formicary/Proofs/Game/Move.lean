import Formicary.Proofs.Game.Combat

/-!
# What a move comes to

An ant that moves enters the cell ahead, and then those die whom it leaves surrounded
(`Game.fallen`). They are the mover or enemies next to it, and checking one after the other kills
exactly them (`resolveCombat_relocate`). So the outcome of a move can be read off the board right
after the move: every ant is what it was then, or it has died (`ant?_move`), and every cell is what
it was then, unless somebody has died on it (`cell?_move`).
-/

namespace Formicary

namespace Game

variable {game : Game} {id other dest : Nat} {ant : Ant}

/-- Those who die when an ant moves to a cell: the mover and the enemies next to it, as far as they
are surrounded right after the move. -/
def fallen (game : Game) (id : Nat) (ant : Ant) (dest : Nat) : List Nat :=
  let moved := game.relocate id ant dest
  (id :: moved.adjacentEnemies id).filter moved.isSurrounded

/-- Nobody is an enemy of itself. -/
theorem notMem_adjacentEnemies_self (h : game.Agrees) (id : Nat) :
    id ∉ game.adjacentEnemies id := by
  intro hmem
  cases hant : game.ant? id with
  | none => simp [adjacentEnemies, hant] at hmem
  | some ant =>
    obtain ⟨-, enemy, henemy, -, -, hcolor⟩ := (mem_adjacentEnemies_iff h hant).1 hmem
    obtain rfl : ant = enemy := Option.some.inj (hant.symm.trans henemy)
    exact hcolor rfl

/-- The mover stands on the new cell and begins to rest. -/
theorem ant?_relocate_self (hant : game.ant? id = some ant) :
    (game.relocate id ant dest).ant? id = some (ant.moveTo dest).rest := by
  rw [ant?_relocate, if_pos rfl, hant, Option.map_some]

theorem ant?_relocate_of_ne (hne : other ≠ id) :
    (game.relocate id ant dest).ant? other = game.ant? other := by
  rw [ant?_relocate, if_neg hne.symm]

/-- The record that an ant had before somebody moved is its record after the move, but for the
place and the rest of the mover. -/
theorem exists_ant?_of_relocate {occupant : Ant} (hant : game.ant? id = some ant)
    (hoccupant : (game.relocate id ant dest).ant? other = some occupant) :
    ∃ before, game.ant? other = some before ∧ occupant.color = before.color ∧
      occupant.alive = before.alive ∧ occupant.hasFood = before.hasFood := by
  by_cases hother : other = id
  · subst hother
    rw [ant?_relocate_self hant, Option.some.injEq] at hoccupant
    subst hoccupant
    exact ⟨ant, hant, rfl, rfl, rfl⟩
  · rw [ant?_relocate_of_ne hother] at hoccupant
    exact ⟨occupant, hoccupant, rfl, rfl, rfl⟩

/-- An ant does not move to where it stands. -/
theorem ne_of_openAhead? (hwired : game.board.Wired) (hopen : game.openAhead? ant = some dest) :
    ant.pos ≠ dest :=
  hwired.ne_of_neighbor? (openAhead?_eq_some_iff.1 hopen).1

/-- Who falls is the mover or an enemy next to it, and had lived. -/
theorem mem_fallen (h : game.Agrees) (hant : game.ant? id = some ant)
    (halive : ant.alive = true) (hopen : game.openAhead? ant = some dest)
    (hmem : other ∈ game.fallen id ant dest) :
    ∃ victim, (game.relocate id ant dest).ant? other = some victim ∧ victim.alive = true ∧
      (other = id ∨ victim.color ≠ ant.color ∧
        ∃ d, game.board.neighbor? dest d = some victim.pos) := by
  obtain ⟨hmem, hsurrounded⟩ := List.mem_filter.1 hmem
  obtain ⟨victim, hvictim, hlives, -⟩ := isSurrounded_eq_true_iff.1 hsurrounded
  refine ⟨victim, hvictim, hlives, ?_⟩
  -- Those who are checked are the mover and the enemies on the cells around it.
  rcases List.mem_cons.1 hmem with rfl | hmem
  · exact .inl rfl
  · obtain ⟨d, enemy, henemy, -, hlink, hcolor⟩ :=
      (mem_adjacentEnemies_iff (h.relocate hant halive hopen) (ant?_relocate_self hant)).1 hmem
    obtain rfl : victim = enemy := Option.some.inj (hvictim.symm.trans henemy)
    rw [Board.neighbor?_eq_of_ground (ground_relocate game id ant dest)] at hlink
    exact .inr ⟨hcolor, d, hlink⟩

section Move

variable (hwired : game.board.Wired) (h : game.Agrees) (hant : game.ant? id = some ant)
  (halive : ant.alive = true) (hopen : game.openAhead? ant = some dest)

include hwired h hant halive hopen

theorem nodup_checked_of_move :
    (id :: (game.relocate id ant dest).adjacentEnemies id).Nodup := by
  have hmoved := h.relocate hant halive hopen
  have hwiredMoved := hwired.of_ground (ground_relocate game id ant dest)
  exact List.nodup_cons.2
    ⟨notMem_adjacentEnemies_self hmoved id, nodup_adjacentEnemies hwiredMoved hmoved id⟩

theorem nodup_fallen : (game.fallen id ant dest).Nodup :=
  (nodup_checked_of_move hwired h hant halive hopen).filter _

/-- Checking the mover and the enemies next to it kills those who are surrounded right after the
move, and nobody else. -/
theorem resolveCombat_relocate :
    (game.relocate id ant dest).resolveCombat id =
      (game.fallen id ant dest).foldl kill (game.relocate id ant dest) := by
  have hahead := (openAhead?_eq_some_iff.1 hopen).1
  have hground := ground_relocate game id ant dest
  have hback : (game.relocate id ant dest).board.neighbor? dest ant.dir.opposite =
      some ant.pos := by
    rw [Board.neighbor?_eq_of_ground hground]
    exact hwired.neighbor?_opposite hahead
  -- The cell that the mover came from is the empty one that keeps the peace.
  have hempty : ∀ other occupant, (game.relocate id ant dest).ant? other = some occupant →
      occupant.alive = true →
        (game.relocate id ant dest).board.neighbor? dest ant.dir.opposite ≠ some occupant.pos := by
    intro other occupant hoccupant hlives
    rw [hback, ne_eq, Option.some.injEq]
    exact left_empty h hant halive (hwired.ne_of_neighbor? hahead) hoccupant hlives
  exact settle_eq_foldl_kill (h.relocate hant halive hopen)
    (nodup_checked_of_move hwired h hant halive hopen)
    (peace_of_move (hwired.of_ground hground) (h.relocate hant halive hopen)
      (ant?_relocate_self hant) hempty)

/-- After a move every ant is what the move has made of it, or it has fallen. -/
theorem ant?_move (other : Nat) :
    ((game.relocate id ant dest).resolveCombat id).ant? other =
      if other ∈ game.fallen id ant dest then
        ((game.relocate id ant dest).ant? other).map Ant.die
      else (game.relocate id ant dest).ant? other := by
  rw [resolveCombat_relocate hwired h hant halive hopen, ant?_foldl_kill]

/-- After a move every cell is what the move has made of it, unless somebody has fallen on it, who
is gone and has left food. -/
theorem cell?_move {i : Nat} {cell' : Cell}
    (hcell' : ((game.relocate id ant dest).resolveCombat id).board.cell? i = some cell') :
    ∃ cell, (game.relocate id ant dest).board.cell? i = some cell ∧
      (cell' = cell ∧ (∀ other ∈ game.fallen id ant dest, ∀ victim,
          (game.relocate id ant dest).ant? other = some victim → victim.pos ≠ i) ∨
        ∃ other ∈ game.fallen id ant dest, ∃ victim,
          (game.relocate id ant dest).ant? other = some victim ∧ victim.pos = i ∧
            cell' = (cell.depositFood (deathAmount victim)).removeAnt) := by
  have hmoved := h.relocate hant halive hopen
  have hlived : ∀ other ∈ game.fallen id ant dest, ∃ victim,
      (game.relocate id ant dest).ant? other = some victim ∧ victim.alive = true := by
    intro other hother
    obtain ⟨victim, hvictim, hlives, -⟩ := mem_fallen h hant halive hopen hother
    exact ⟨victim, hvictim, hlives⟩
  rw [resolveCombat_relocate hwired h hant halive hopen,
    cell?_foldl_kill hmoved (nodup_fallen hwired h hant halive hopen) hlived] at hcell'
  obtain ⟨cell, hcell, rfl⟩ := Option.map_eq_some_iff.1 hcell'
  refine ⟨cell, hcell, ?_⟩
  by_cases hsomebody : ∃ other ∈ game.fallen id ant dest, ∃ victim,
      (game.relocate id ant dest).ant? other = some victim ∧ victim.pos = i
  · -- The cell names the one who falls on it.
    obtain ⟨other, hother, victim, hvictim, hpos⟩ := hsomebody
    obtain ⟨_, hsame, hlives⟩ := hlived other hother
    obtain rfl := Option.some.inj (hvictim.symm.trans hsame)
    have hname := (hmoved.occupant_iff hcell).2 ⟨victim, hvictim, hlives, hpos⟩
    exact .inr ⟨other, hother, victim, hvictim, hpos, by simp only [hname, hvictim, if_pos hother]⟩
  · -- Whoever stands on the cell, if anybody, does not fall.
    refine .inl ⟨?_, fun other hother victim hvictim hpos =>
      hsomebody ⟨other, hother, victim, hvictim, hpos⟩⟩
    cases hname : cell.ant with
    | none => rfl
    | some other =>
      obtain ⟨occupant, hoccupant, -, hpos⟩ := (hmoved.occupant_iff hcell).1 hname
      change (game.relocate id ant dest).ant? other = some occupant at hoccupant
      simp only [hoccupant]
      rw [if_neg fun hother => hsomebody ⟨other, hother, occupant, hoccupant, hpos⟩]

end Move

end Game

end Formicary
