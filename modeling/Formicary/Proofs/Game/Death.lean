import Formicary.Proofs.Board.Links
import Formicary.Proofs.Game.Start
import Mathlib.Data.List.Nodup

/-!
# Deaths

What the death of an ant does to the enemies that the others count around them
(`adjacentEnemies_kill`), what any number of deaths leaves behind, whatever their order
(`ant?_foldl_kill`, `cell?_foldl_kill`, `foldl_kill_perm`), and what checking a list of ants comes
to when no two of those that are surrounded are enemies of each other (`settle_eq_foldl_kill`).
-/

namespace Formicary

namespace Game

variable {game : Game} {id other : Nat} {ant enemy : Ant} {d : Direction}

/-! ### Enemies around an ant -/

/-- The enemy in a direction is a living ant of the other colony on the cell in that direction. -/
theorem enemyToward?_eq_some_iff (h : game.Agrees) :
    game.enemyToward? ant d = some other ↔
      ∃ enemy, game.ant? other = some enemy ∧ enemy.alive = true ∧
        game.board.neighbor? ant.pos d = some enemy.pos ∧ enemy.color ≠ ant.color := by
  simp only [enemyToward?, Option.bind_eq_bind, Option.bind_eq_some_iff]
  constructor
  · rintro ⟨i, hi, cell, hcell, id, hid, enemy, henemy, hcolor⟩
    by_cases hne : enemy.color ≠ ant.color
    · rw [if_pos hne, Option.some.injEq] at hcolor
      subst hcolor
      obtain ⟨enemy', henemy', halive, rfl⟩ := (h.occupant_iff hcell).1 hid
      obtain rfl : enemy = enemy' := Option.some.inj (henemy.symm.trans henemy')
      exact ⟨enemy, henemy, halive, hi, hne⟩
    · simp [hne] at hcolor
  · rintro ⟨enemy, henemy, halive, hi, hne⟩
    obtain ⟨cell, hcell, -, hname⟩ := h.cell_of_alive henemy halive
    exact ⟨enemy.pos, hi, cell, hcell, other, hname, enemy, henemy, by rw [if_pos hne]⟩

theorem adjacentEnemies_eq (hant : game.ant? id = some ant) :
    game.adjacentEnemies id = Direction.all.filterMap (game.enemyToward? ant) := by
  rw [adjacentEnemies, hant]

theorem mem_adjacentEnemies_iff (h : game.Agrees) (hant : game.ant? id = some ant) :
    other ∈ game.adjacentEnemies id ↔
      ∃ d enemy, game.ant? other = some enemy ∧ enemy.alive = true ∧
        game.board.neighbor? ant.pos d = some enemy.pos ∧ enemy.color ≠ ant.color := by
  simp only [adjacentEnemies_eq hant, List.mem_filterMap, Direction.mem_all, true_and,
    enemyToward?_eq_some_iff h]

/-- Whoever is surrounded is next to an enemy. -/
theorem exists_enemy_of_isSurrounded (h : game.Agrees)
    (hsurrounded : game.isSurrounded id = true) :
    ∃ d ant other enemy, game.ant? id = some ant ∧ game.ant? other = some enemy ∧
      game.board.neighbor? ant.pos d = some enemy.pos ∧ enemy.color ≠ ant.color := by
  obtain ⟨ant, hant, -, hcount⟩ := isSurrounded_eq_true_iff.1 hsurrounded
  obtain ⟨other, hother⟩ := List.exists_mem_of_length_pos (Nat.lt_of_lt_of_le (by decide) hcount)
  obtain ⟨d, enemy, henemy, -, hlink, hcolor⟩ := (mem_adjacentEnemies_iff h hant).1 hother
  exact ⟨d, ant, other, enemy, hant, henemy, hlink, hcolor⟩

/-- On a wired board no enemy is found in two directions. -/
theorem nodup_adjacentEnemies (hwired : game.board.Wired) (h : game.Agrees) (id : Nat) :
    (game.adjacentEnemies id).Nodup := by
  rw [adjacentEnemies]
  split
  next ant _ =>
    refine List.Nodup.filterMap ?_ (by decide)
    intro d d' other hd hd'
    obtain ⟨enemy, henemy, -, hpos, -⟩ := (enemyToward?_eq_some_iff h).1 hd
    obtain ⟨enemy', henemy', -, hpos', -⟩ := (enemyToward?_eq_some_iff h).1 hd'
    obtain rfl : enemy = enemy' := Option.some.inj (henemy.symm.trans henemy')
    exact hwired.eq_of_neighbor? hpos hpos'
  next => exact .nil

/-! ### What a death does to the others -/

section Kill

variable {victim : Nat}

/-- A death changes neither the cell nor the colony of any ant. -/
theorem ant?_kill_of_ne (hne : other ≠ victim) :
    (game.kill victim).ant? other = game.ant? other := by
  cases hvictim : game.ant? victim with
  | none => rw [kill_eq_self hvictim]
  | some dead => rw [ant?_kill hvictim, if_neg hne.symm]

theorem ground_kill (game : Game) (victim : Nat) :
    (game.kill victim).board.ground = game.board.ground := by
  cases hvictim : game.ant? victim with
  | none => rw [kill_eq_self hvictim]
  | some dead =>
    simp only [kill, hvictim, board_recordAt, board_modifyAnt, board_modifyCell]
    exact Board.ground_modify _ _ fun cell => by simp

/-- A death takes the dead from among the enemies around an ant, and nobody else. -/
theorem enemyToward?_kill (h : game.Agrees) (hvictim : game.ant? victim = some enemy)
    (halive : enemy.alive = true) (ant : Ant) (d : Direction) :
    (game.kill victim).enemyToward? ant d =
      (game.enemyToward? ant d).filter (· ≠ victim) := by
  ext other
  rw [enemyToward?_eq_some_iff (h.kill hvictim halive), Option.filter_eq_some_iff,
    enemyToward?_eq_some_iff h, decide_eq_true_eq,
    Board.neighbor?_eq_of_ground (ground_kill game victim)]
  constructor
  · rintro ⟨enemy', henemy', hlives, hpos, hcolor⟩
    have hne : other ≠ victim := by
      rintro rfl
      rw [ant?_kill hvictim, if_pos rfl, hvictim, Option.map_some, Option.some.injEq] at henemy'
      simp [← henemy', Ant.die] at hlives
    rw [ant?_kill_of_ne hne] at henemy'
    exact ⟨⟨enemy', henemy', hlives, hpos, hcolor⟩, hne⟩
  · rintro ⟨⟨enemy', henemy', hlives, hpos, hcolor⟩, hne⟩
    exact ⟨enemy', by rw [ant?_kill_of_ne hne, henemy'], hlives, hpos, hcolor⟩

theorem adjacentEnemies_kill (h : game.Agrees) (hvictim : game.ant? victim = some enemy)
    (halive : enemy.alive = true) (hne : id ≠ victim) :
    (game.kill victim).adjacentEnemies id = (game.adjacentEnemies id).filter (· ≠ victim) := by
  rw [adjacentEnemies, adjacentEnemies, ant?_kill_of_ne hne]
  split
  · rw [List.filter_filterMap]
    exact List.filterMap_congr fun d _ => enemyToward?_kill h hvictim halive _ d
  · rfl

/-- A death does not matter to ants that the dead was no enemy of. -/
theorem isSurrounded_kill_of_notMem (h : game.Agrees) (hvictim : game.ant? victim = some enemy)
    (halive : enemy.alive = true) (hne : id ≠ victim)
    (hnotMem : victim ∉ game.adjacentEnemies id) :
    (game.kill victim).isSurrounded id = game.isSurrounded id := by
  have hsame : (game.kill victim).adjacentEnemies id = game.adjacentEnemies id := by
    rw [adjacentEnemies_kill h hvictim halive hne, List.filter_eq_self]
    intro other hother
    rw [decide_eq_true_eq]
    rintro rfl
    exact hnotMem hother
  rw [isSurrounded, isSurrounded, hsame, ant?_kill_of_ne hne]

/-- No death surrounds anybody. -/
theorem isSurrounded_of_kill (h : game.Agrees) (hvictim : game.ant? victim = some enemy)
    (halive : enemy.alive = true) (hsurrounded : (game.kill victim).isSurrounded id = true) :
    game.isSurrounded id = true ∧ id ≠ victim := by
  obtain ⟨ant, hant, hlives, hcount⟩ := isSurrounded_eq_true_iff.1 hsurrounded
  have hne : id ≠ victim := by
    rintro rfl
    rw [ant?_kill hvictim, if_pos rfl, hvictim, Option.map_some, Option.some.injEq] at hant
    simp [← hant, Ant.die] at hlives
  rw [ant?_kill_of_ne hne] at hant
  rw [adjacentEnemies_kill h hvictim halive hne] at hcount
  exact ⟨isSurrounded_eq_true_iff.2
    ⟨ant, hant, hlives, Nat.le_trans hcount (List.length_filter_le ..)⟩, hne⟩

end Kill

/-! ### A number of deaths -/

/-- A death by death of the given ants takes the lives of all of them and of nobody else. -/
theorem ant?_foldl_kill (game : Game) (victims : List Nat) (id : Nat) :
    (victims.foldl kill game).ant? id =
      if id ∈ victims then (game.ant? id).map Ant.die else game.ant? id := by
  induction victims generalizing game with
  | nil => simp
  | cons victim victims ih =>
    rw [List.foldl_cons, ih]
    by_cases hid : id = victim
    · subst hid
      cases hant : game.ant? id with
      | none => simp [kill_eq_self hant, hant]
      | some ant =>
        rw [ant?_kill hant, if_pos rfl, hant, if_pos List.mem_cons_self]
        -- Dying twice would be the same as dying once.
        split <;> rfl
    · rw [ant?_kill_of_ne hid]
      simp [hid]

/-- A death by death of different living ants leaves food on their cells, takes them off, and
changes no other cell. Nothing here depends on the order of the deaths. -/
theorem cell?_foldl_kill {victims : List Nat} (h : game.Agrees) (hnodup : victims.Nodup)
    (hvictims : ∀ id ∈ victims, ∃ ant, game.ant? id = some ant ∧ ant.alive = true) (i : Nat) :
    (victims.foldl kill game).board.cell? i =
      (game.board.cell? i).map fun cell =>
        match cell.ant with
        | some id =>
          match game.ant? id with
          | some ant =>
            if id ∈ victims then (cell.depositFood (deathAmount ant)).removeAnt else cell
          | none => cell
        | none => cell := by
  induction victims generalizing game with
  | nil =>
    simp only [List.foldl_nil, List.not_mem_nil, ↓reduceIte]
    cases game.board.cell? i with
    | none => rfl
    | some cell =>
      rw [Option.map_some]
      split
      · split <;> rfl
      · rfl
  | cons victim victims ih =>
    obtain ⟨hnotMem, hnodup⟩ := List.nodup_cons.1 hnodup
    obtain ⟨dead, hdead, halive⟩ := hvictims victim List.mem_cons_self
    have hvictims' : ∀ id ∈ victims, ∃ ant, (game.kill victim).ant? id = some ant ∧
        ant.alive = true := by
      intro id hid
      have hne : id ≠ victim := fun heq => hnotMem (heq ▸ hid)
      rw [ant?_kill_of_ne hne]
      exact hvictims id (List.mem_cons_of_mem _ hid)
    -- Whatever the first death has changed, the others find their own ants and cells as they were.
    rw [List.foldl_cons, ih (h.kill hdead halive) hnodup hvictims', cell?_kill hdead]
    cases hcell : game.board.cell? i with
    | none => simp
    | some cell =>
      by_cases hi : dead.pos = i
      · -- The cell of the first victim names nobody any more, so the rest leave it alone.
        have hname := (h.occupant_iff hcell).2 ⟨dead, hdead, halive, hi⟩
        simp [hi, hname, hdead]
      · rw [if_neg hi]
        simp only [Option.map_some, Option.some.injEq]
        cases hname : cell.ant with
        | none => rfl
        | some id =>
          obtain ⟨ant, hant, -, hpos⟩ := (h.occupant_iff hcell).1 hname
          have hne : id ≠ victim := by
            rintro rfl
            obtain rfl : dead = ant := Option.some.inj (hdead.symm.trans hant)
            exact hi hpos
          have hant' : game.ant? id = some ant := hant
          simp [ant?_kill_of_ne hne, hant', hne]

theorem ground_foldl_kill (game : Game) (victims : List Nat) :
    (victims.foldl kill game).board.ground = game.board.ground := by
  induction victims generalizing game with
  | nil => rfl
  | cons victim victims ih => exact (ih _).trans (ground_kill game victim)

/-- In whatever order different living ants are killed, the outcome is the same. -/
theorem foldl_kill_perm {victims victims' : List Nat} (h : game.Agrees) (hnodup : victims.Nodup)
    (hvictims : ∀ id ∈ victims, ∃ ant, game.ant? id = some ant ∧ ant.alive = true)
    (hperm : victims'.Perm victims) :
    (victims'.foldl kill game).board = (victims.foldl kill game).board ∧
      (victims'.foldl kill game).ants = (victims.foldl kill game).ants := by
  have hmem (id : Nat) : id ∈ victims' ↔ id ∈ victims := hperm.mem_iff
  constructor
  · have hframe := Board.toFrame_eq_of_ground
      ((ground_foldl_kill game victims').trans (ground_foldl_kill game victims).symm)
    -- What becomes of a cell or an ant depends only on who is among the victims.
    have hcells : (victims'.foldl kill game).board.cells =
        (victims.foldl kill game).board.cells := by
      refine Array.ext_getElem? fun i => ?_
      change (victims'.foldl kill game).board.cell? i = (victims.foldl kill game).board.cell? i
      rw [cell?_foldl_kill h (hperm.nodup_iff.2 hnodup) fun id hid => hvictims id ((hmem id).1 hid),
        cell?_foldl_kill h hnodup hvictims]
      simp only [hmem]
    exact Board.mk.injEq .. ▸ ⟨hframe, hcells⟩
  · refine Array.ext_getElem? fun id => ?_
    change (victims'.foldl kill game).ant? id = (victims.foldl kill game).ant? id
    simp only [ant?_foldl_kill, hmem]

/-! ### Checking a list of ants -/

/-- If no two of the given ants are surrounded enemies of each other, then checking them one after
the other kills those that are surrounded at the beginning. -/
theorem settle_eq_foldl_kill {ids : List Nat} (h : game.Agrees) (hnodup : ids.Nodup)
    (hpeace : ∀ id ∈ ids, ∀ other ∈ ids, game.isSurrounded id = true →
      game.isSurrounded other = true → other ∉ game.adjacentEnemies id) :
    game.settle ids = (ids.filter game.isSurrounded).foldl kill game := by
  induction ids generalizing game with
  | nil => rfl
  | cons victim ids ih =>
    obtain ⟨hnotMem, hnodup⟩ := List.nodup_cons.1 hnodup
    have hpeace' : ∀ id ∈ ids, ∀ other ∈ ids, game.isSurrounded id = true →
        game.isSurrounded other = true → other ∉ game.adjacentEnemies id :=
      fun id hid other hother =>
        hpeace id (List.mem_cons_of_mem _ hid) other (List.mem_cons_of_mem _ hother)
    rw [settle, List.foldl_cons, checkDeath]
    by_cases hsurrounded : game.isSurrounded victim = true
    · obtain ⟨dead, hdead, halive, -⟩ := isSurrounded_eq_true_iff.1 hsurrounded
      rw [if_pos hsurrounded, List.filter_cons_of_pos hsurrounded, List.foldl_cons]
      -- The death changes no other verdict: who was surrounded has lost no enemy.
      have hsame : ∀ id ∈ ids, (game.kill victim).isSurrounded id = game.isSurrounded id := by
        intro id hid
        rw [Bool.eq_iff_iff]
        constructor
        · exact fun hid' => (isSurrounded_of_kill h hdead halive hid').1
        · intro hid'
          have hne : id ≠ victim := fun heq => hnotMem (heq ▸ hid)
          rw [isSurrounded_kill_of_notMem h hdead halive hne, hid']
          exact hpeace id (List.mem_cons_of_mem _ hid) victim List.mem_cons_self hid' hsurrounded
      rw [List.filter_congr (fun id hid => (hsame id hid).symm)]
      refine ih (h.kill hdead halive) hnodup fun id hid other hother hid' hother' hmem => ?_
      have hne := (isSurrounded_of_kill h hdead halive hid').2
      rw [adjacentEnemies_kill h hdead halive hne] at hmem
      exact hpeace' id hid other hother (hsame id hid ▸ hid') (hsame other hother ▸ hother')
        (List.mem_of_mem_filter hmem)
    · rw [if_neg hsurrounded, List.filter_cons_of_neg hsurrounded]
      exact ih h hnodup hpeace'

end Game

end Formicary
