import Formicary.Proofs.Game.Death

/-!
# Death checks in any order

After a move the mover and the enemies next to it are checked for five enemies around them. Every
death takes an enemy away from those that are still to be checked, so the order of the checks might
matter. It does not: a surrounded mover and a surrounded enemy never stand next to each other
(`not_isSurrounded_of_mover`). The cell that the mover came from is empty, so five enemies around
it stand on all the other cells. Each of them has two of the cells around the mover next to it as
well, where it finds friends, or nobody, or the end of the board, which leaves at most four enemies
for it.

`settle_order_irrelevant` states for every move in every reachable state that all orders of the
checks have the same outcome, and who dies.
-/

namespace Formicary

/-- Of the six directions at most four are left if two of them give nothing. -/
theorem Direction.length_filterMap_all_le {α : Type} {f : Direction → Option α} {d d' : Direction}
    (hne : d ≠ d') (hd : f d = none) (hd' : f d' = none) : (all.filterMap f).length ≤ 4 := by
  have hlength : (all.filterMap f).length = all.countP fun e => (f e).isSome := by
    rw [List.length_filterMap_eq_countP]
  have hle : (all.countP fun e => (f e).isSome) ≤ all.countP fun e => e ≠ d ∧ e ≠ d' := by
    refine List.countP_mono_left fun e _ he => ?_
    rw [decide_eq_true_eq]
    constructor
    · rintro rfl
      simp [hd] at he
    · rintro rfl
      simp [hd'] at he
  have hfour : (all.countP fun e => e ≠ d ∧ e ≠ d') = 4 := by
    revert hne
    cases d <;> cases d' <;> decide
  omega

namespace Game

variable {game : Game} {id dest : Nat} {ant : Ant}

/-- Around an enemy next to an ant there is no further enemy of it on a cell where the ant finds
an enemy of its own, nor where nobody stands. -/
theorem enemyToward?_eq_none (h : game.Agrees) {enemy : Ant} {d e : Direction}
    (hcolor : enemy.color ≠ ant.color)
    (hshared : game.board.neighbor? enemy.pos e = game.board.neighbor? ant.pos d)
    (hcell : (∃ other, game.enemyToward? ant d = some other) ∨
      ∀ other occupant, game.ant? other = some occupant → occupant.alive = true →
        game.board.neighbor? ant.pos d ≠ some occupant.pos) :
    game.enemyToward? enemy e = none := by
  rw [Option.eq_none_iff_forall_ne_some]
  intro found hfound
  obtain ⟨occupant, hoccupant, halive, hpos, hfoe⟩ := (enemyToward?_eq_some_iff h).1 hfound
  rw [hshared] at hpos
  rcases hcell with ⟨other, hother⟩ | hnobody
  · -- The ant's own enemy on that cell is a friend of the enemy.
    obtain ⟨friend, hfriend, halive', hpos', hcolor'⟩ := (enemyToward?_eq_some_iff h).1 hother
    have hsame : found = other :=
      h.eq_of_pos_eq hoccupant halive hfriend halive' (Option.some.inj (hpos.symm.trans hpos'))
    subst hsame
    obtain rfl : occupant = friend := Option.some.inj (hoccupant.symm.trans hfriend)
    exact hfoe (Color.eq_of_ne_of_ne hcolor' hcolor)
  · exact hnobody found occupant hoccupant halive hpos

/-- If nobody stands on one of the cells around an ant and the ant is surrounded, then no enemy
next to it is surrounded. -/
theorem not_isSurrounded_of_mover (hwired : game.board.Wired) (h : game.Agrees)
    (hant : game.ant? id = some ant) {back : Direction}
    (hempty : ∀ other occupant, game.ant? other = some occupant → occupant.alive = true →
      game.board.neighbor? ant.pos back ≠ some occupant.pos)
    (hsurrounded : game.isSurrounded id = true) {other : Nat}
    (hother : other ∈ game.adjacentEnemies id) : game.isSurrounded other = false := by
  obtain ⟨d, enemy, henemy, -, hpos, hcolor⟩ := (mem_adjacentEnemies_iff h hant).1 hother
  -- All the other cells around the ant are taken by enemies.
  have hback : game.enemyToward? ant back = none := by
    rw [Option.eq_none_iff_forall_ne_some]
    intro found hfound
    obtain ⟨occupant, hoccupant, halive, hpos, -⟩ := (enemyToward?_eq_some_iff h).1 hfound
    exact hempty found occupant hoccupant halive hpos
  have htaken (e : Direction) : (∃ other, game.enemyToward? ant e = some other) ∨
      ∀ other occupant, game.ant? other = some occupant → occupant.alive = true →
        game.board.neighbor? ant.pos e ≠ some occupant.pos := by
    by_cases he : e = back
    · subst he
      exact .inr hempty
    · left
      by_contra hnone
      obtain ⟨ant', hant', -, hcount⟩ := isSurrounded_eq_true_iff.1 hsurrounded
      obtain rfl : ant = ant' := Option.some.inj (hant.symm.trans hant')
      have hle := Direction.length_filterMap_all_le he
        (Option.eq_none_iff_forall_ne_some.2 fun other hother => hnone ⟨other, hother⟩) hback
      rw [adjacentEnemies_eq hant, surroundLimit] at hcount
      exact absurd hle (by omega)
  -- So the enemy has no enemy on the two cells that are next to both.
  have hleft : game.enemyToward? enemy d.left.left = none :=
    enemyToward?_eq_none h hcolor (hwired.neighbor?_left_left hpos) (htaken d.left)
  have hright : game.enemyToward? enemy d.right.right = none :=
    enemyToward?_eq_none h hcolor (hwired.neighbor?_right_right hpos) (htaken d.right)
  rw [Bool.eq_false_iff]
  intro hsurrounded'
  obtain ⟨enemy', henemy', -, hcount⟩ := isSurrounded_eq_true_iff.1 hsurrounded'
  obtain rfl : enemy = enemy' := Option.some.inj (henemy.symm.trans henemy')
  have hle := Direction.length_filterMap_all_le d.left_left_ne_right_right hleft hright
  rw [adjacentEnemies_eq henemy, surroundLimit] at hcount
  exact absurd hle (by omega)

/-- Nobody stands on the cell that an ant has just left. -/
theorem left_empty (h : game.Agrees) (hant : game.ant? id = some ant) (halive : ant.alive = true)
    (hne : ant.pos ≠ dest) {other : Nat} {occupant : Ant}
    (hoccupant : (game.relocate id ant dest).ant? other = some occupant)
    (halive' : occupant.alive = true) : ant.pos ≠ occupant.pos := by
  intro hpos
  rw [ant?_relocate] at hoccupant
  split at hoccupant
  next =>
    obtain ⟨_, -, rfl⟩ := Option.map_eq_some_iff.1 hoccupant
    exact hne hpos
  next hid => exact hid (h.eq_of_pos_eq hant halive hoccupant halive' hpos)

/-- After a move nobody that is surrounded is an enemy of another one that is to be checked. -/
theorem peace_of_move (hwired : game.board.Wired) (h : game.Agrees)
    (hant : game.ant? id = some ant) {back : Direction}
    (hempty : ∀ other occupant, game.ant? other = some occupant → occupant.alive = true →
      game.board.neighbor? ant.pos back ≠ some occupant.pos) :
    ∀ one ∈ id :: game.adjacentEnemies id, ∀ other ∈ id :: game.adjacentEnemies id,
      game.isSurrounded one = true → game.isSurrounded other = true →
        other ∉ game.adjacentEnemies one := by
  have hmover {other : Nat} (hother : other ∈ game.adjacentEnemies id)
      (hid : game.isSurrounded id = true) : ¬game.isSurrounded other = true := by
    simp [not_isSurrounded_of_mover hwired h hant hempty hid hother]
  intro one hone other hother hone' hother' hmem
  rcases List.mem_cons.1 hone with rfl | hone
  · exact hmover hmem hone' hother'
  · rcases List.mem_cons.1 hother with rfl | hother
    · exact hmover hone hother' hone'
    · -- Two enemies of the mover belong to one colony.
      obtain ⟨-, enemy, henemy, -, -, hcolor⟩ := (mem_adjacentEnemies_iff h hant).1 hone
      obtain ⟨-, enemy', henemy', -, -, hcolor'⟩ := (mem_adjacentEnemies_iff h hant).1 hother
      obtain ⟨-, foe, hfoe, -, -, hne⟩ := (mem_adjacentEnemies_iff h henemy).1 hmem
      obtain rfl : enemy' = foe := Option.some.inj (henemy'.symm.trans hfoe)
      exact hne (Color.eq_of_ne_of_ne hcolor' hcolor)

/-- The ant with a number lives. -/
def Alive (game : Game) (id : Nat) : Prop := ∃ ant, game.ant? id = some ant ∧ ant.alive = true

/-- After a number of deaths those live that lived before and did not die. -/
theorem alive_foldl_kill_iff {victims : List Nat} {other : Nat} :
    (victims.foldl kill game).Alive other ↔ game.Alive other ∧ other ∉ victims := by
  simp only [Alive, ant?_foldl_kill]
  split
  next hmem =>
    simp only [hmem, not_true_eq_false, and_false, iff_false, Option.map_eq_some_iff]
    rintro ⟨ant, ⟨_, -, rfl⟩, hlives⟩
    simp [Ant.die] at hlives
  next hmem => simp [hmem]

variable {redBrain blackBrain : Brain} {board : Board} {rng : Rng} {order : List Nat}

/-- Let an ant move in a reachable state. Checking the mover and the enemies next to it in any
order gives the cells and the ants that the game gives. Of all ants exactly those of them die that
have enough enemies around them right after the move, and if the mover dies, it dies alone. -/
theorem settle_order_irrelevant (hwired : board.Wired) (hvacant : board.Vacant)
    (hreach : Reachable (start redBrain blackBrain board rng) game)
    (hant : game.ant? id = some ant) (halive : ant.alive = true)
    (hopen : game.openAhead? ant = some dest)
    (horder : order.Perm (id :: (game.relocate id ant dest).adjacentEnemies id)) :
    let moved := game.relocate id ant dest
    let after := moved.resolveCombat id
    (∀ onSuccess onFail,
        game.execute id ant (.move onSuccess onFail) = (onSuccess, after)) ∧
      (moved.settle order).board = after.board ∧ (moved.settle order).ants = after.ants ∧
      (∀ other, moved.Alive other ∧ ¬after.Alive other ↔
        other ∈ id :: moved.adjacentEnemies id ∧
          surroundLimit ≤ (moved.adjacentEnemies other).length) ∧
      (¬after.Alive id → ∀ other, other ≠ id → moved.Alive other → after.Alive other) := by
  intro moved after
  have hagrees : game.Agrees := hreach.agrees (agrees_start hvacant)
  obtain ⟨hahead, destCell, hdest, havailable⟩ := openAhead?_eq_some_iff.1 hopen
  have hwired' : game.board.Wired :=
    hwired.of_ground (hreach.ground.trans (ground_start redBrain blackBrain board rng))
  have hne : ant.pos ≠ dest := hwired'.ne_of_neighbor? hahead
  -- The board right after the move, and the mover on it.
  have hmoved : moved.Agrees := hagrees.relocate hant halive hopen
  have hwiredMoved : moved.board.Wired := hwired'.of_ground (ground_relocate game id ant dest)
  have hmover : moved.ant? id = some (ant.moveTo dest).rest := by
    rw [ant?_relocate, if_pos rfl, hant, Option.map_some]
  have hback : moved.board.neighbor? dest ant.dir.opposite = some ant.pos := by
    rw [Board.neighbor?_eq_of_ground (ground_relocate game id ant dest)]
    exact hwired'.neighbor?_opposite hahead
  have hempty : ∀ other occupant, moved.ant? other = some occupant → occupant.alive = true →
      moved.board.neighbor? dest ant.dir.opposite ≠ some occupant.pos := by
    intro other occupant hoccupant halive'
    rw [hback, ne_eq, Option.some.injEq]
    exact left_empty hagrees hant halive hne hoccupant halive'
  -- The list of those to be checked.
  have hpeace := peace_of_move hwiredMoved hmoved hmover hempty
  have hself : id ∉ moved.adjacentEnemies id := by
    intro hmem
    obtain ⟨-, enemy, henemy, -, -, hcolor⟩ := (mem_adjacentEnemies_iff hmoved hmover).1 hmem
    obtain rfl : (ant.moveTo dest).rest = enemy := Option.some.inj (hmover.symm.trans henemy)
    exact hcolor rfl
  have hnodup : (id :: moved.adjacentEnemies id).Nodup :=
    List.nodup_cons.2 ⟨hself, nodup_adjacentEnemies hwiredMoved hmoved id⟩
  have hlives : ∀ other ∈ id :: moved.adjacentEnemies id, moved.Alive other := by
    intro other hother
    rcases List.mem_cons.1 hother with rfl | hother
    · exact ⟨_, hmover, halive⟩
    · obtain ⟨-, enemy, henemy, hlives, -⟩ := (mem_adjacentEnemies_iff hmoved hmover).1 hother
      exact ⟨enemy, henemy, hlives⟩
  -- Both ways of checking kill those that are surrounded on that board.
  have hafter : after = ((id :: moved.adjacentEnemies id).filter moved.isSurrounded).foldl kill
      moved := settle_eq_foldl_kill hmoved hnodup hpeace
  have hsettle : moved.settle order = (order.filter moved.isSurrounded).foldl kill moved := by
    refine settle_eq_foldl_kill hmoved (horder.nodup_iff.2 hnodup) fun one hone other hother => ?_
    exact hpeace one (horder.mem_iff.1 hone) other (horder.mem_iff.1 hother)
  have hsame := foldl_kill_perm hmoved (hnodup.filter _)
    (fun other hother => hlives other (List.mem_of_mem_filter hother))
    (horder.filter moved.isSurrounded)
  rw [← hafter, ← hsettle] at hsame
  have hdead (other : Nat) : moved.Alive other ∧ ¬after.Alive other ↔
      other ∈ id :: moved.adjacentEnemies id ∧
        surroundLimit ≤ (moved.adjacentEnemies other).length := by
    rw [hafter, alive_foldl_kill_iff, List.mem_filter, isSurrounded_eq_true_iff]
    constructor
    · rintro ⟨hlives', hdies⟩
      by_contra hnot
      refine hdies ⟨hlives', fun ⟨hother, occupant, _, _, hcount⟩ => hnot ⟨hother, hcount⟩⟩
    · rintro ⟨hother, hcount⟩
      obtain ⟨occupant, hoccupant, hlives'⟩ := hlives other hother
      exact ⟨⟨occupant, hoccupant, hlives'⟩, fun hnot =>
        hnot.2 ⟨hother, occupant, hoccupant, hlives', hcount⟩⟩
  refine ⟨fun onSuccess onFail => ?_, hsame.1, hsame.2, hdead, ?_⟩
  · rw [execute, hopen]
  · intro hid other hother hlives'
    by_contra hdies
    have hmoverDies := (hdead id).1 ⟨⟨_, hmover, halive⟩, hid⟩
    obtain ⟨hmem, hcount⟩ := (hdead other).1 ⟨hlives', hdies⟩
    obtain ⟨occupant, hoccupant, hlives'⟩ := hlives'
    have hid' : moved.isSurrounded id = true :=
      isSurrounded_eq_true_iff.2 ⟨_, hmover, halive, hmoverDies.2⟩
    have hother' : moved.isSurrounded other = true :=
      isSurrounded_eq_true_iff.2 ⟨_, hoccupant, hlives', hcount⟩
    have hmem' : other ∈ moved.adjacentEnemies id := (List.mem_cons.1 hmem).resolve_left hother
    exact hpeace id List.mem_cons_self other hmem hid' hother' hmem'

/-- In the siege the second red ant steps to the black one and completes the ring: the black ant
dies, whether it is checked after the mover or before. -/
theorem settle_order_siege :
    let game := siege.stepAnt 0
    let ant : Ant := { id := 1, color := .red, pos := 10 }
    let moved := game.relocate 1 ant 11
    game.ant? 1 = some ant ∧ game.openAhead? ant = some 11 ∧
      [2, 1].Perm (1 :: moved.adjacentEnemies 1) ∧
      (moved.settle [2, 1]).board = (moved.resolveCombat 1).board ∧
      moved.Alive 2 ∧ ¬(moved.resolveCombat 1).Alive 2 := by
  intro game ant moved
  have hant : game.ant? 1 = some ant := by decide +kernel
  have hopen : game.openAhead? ant = some 11 := by decide +kernel
  have horder : [2, 1].Perm (1 :: moved.adjacentEnemies 1) := by decide +kernel
  have hmain := settle_order_irrelevant (Board.wired_ofMap siegeWorld)
    (Board.vacant_ofMap siegeWorld) (.stepAnt 0 .refl) hant rfl hopen horder
  exact ⟨hant, hopen, horder, hmain.2.1, (hmain.2.2.2.1 2).2 (by decide +kernel)⟩

end Game

end Formicary
