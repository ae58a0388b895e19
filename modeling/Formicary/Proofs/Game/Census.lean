import Formicary.Proofs.Game.Start

/-!
# The census of a game

All that a game reads about ants from the cells could as well be found by going through the list
of living ants: what an ant senses, whether a cell is available, and which enemies stand around an
ant. `Game.scan?` is that search, and `scan?_eq` says that the cell gives the same answer as long
as board and ants agree.

`census_of_reachable` puts together what holds of the ants in every reachable state of a game on a
world: who they are, who stands where, and that nothing read from a cell is out of date.
-/

namespace Formicary

namespace Game

/-! ### Reading from the list of ants -/

/-- The number of the living ant on a cell, if it passes a test, found by going through all
ants. -/
def scan? (game : Game) (i : Nat) (test : Ant → Bool) : Option Nat :=
  game.ants.toList.findIdx? fun ant => ant.alive && ant.pos = i && test ant

/-- Whether a condition holds on a cell, where ants are looked for in the list of ants. -/
def scanHolds (game : Game) (i : Nat) (cell : Cell) (color : Color) (cond : Condition) : Bool :=
  match cond with
  | .friend => (game.scan? i fun ant => ant.color = color).isSome
  | .foe => (game.scan? i fun ant => ant.color ≠ color).isSome
  | .friendWithFood => (game.scan? i fun ant => ant.color = color && ant.hasFood).isSome
  | .foeWithFood => (game.scan? i fun ant => ant.color ≠ color && ant.hasFood).isSome
  | cond => game.holdsOn cell color cond

/-- Whether a condition holds on the cell with a given number, where ants are looked for in the
list of ants. -/
def scanSenses (game : Game) (i : Option Nat) (color : Color) (cond : Condition) : Bool :=
  match i.bind fun i => (game.board.cell? i).map (i, ·) with
  | some (i, cell) => game.scanHolds i cell color cond
  | none => cond = .rock

/-- The numbers of the enemies next to an ant, where they are looked for in the list of ants. -/
def scanEnemies (game : Game) (id : Nat) : List Nat :=
  match game.ant? id with
  | some ant => Direction.all.filterMap fun d =>
      (game.board.neighbor? ant.pos d).bind fun i =>
        game.scan? i fun other => other.color ≠ ant.color
  | none => []

variable {game : Game} {i : Nat} {cell : Cell}

/-- The list of ants and the cell give the same answer about who stands on the cell. -/
theorem scan?_eq (h : game.Agrees) (hcell : game.board.cell? i = some cell) (test : Ant → Bool) :
    game.scan? i test =
      cell.ant.bind fun id =>
        (game.ant? id).bind fun ant => if test ant then some id else none := by
  cases hscan : game.scan? i test with
  | some id =>
    -- The ant found is the one that the cell names.
    obtain ⟨hid, hfound, -⟩ := List.findIdx?_eq_some_iff_getElem.1 hscan
    simp only [Bool.and_eq_true, decide_eq_true_eq] at hfound
    have hant : game.ant? id = some game.ants.toList[id] := by
      rw [ant?, ← Array.getElem?_toList, List.getElem?_eq_getElem hid]
    have hname := (h.occupant_iff hcell).2 ⟨_, hant, hfound.1.1, hfound.1.2⟩
    rw [hname, Option.bind_some, hant, Option.bind_some, if_pos hfound.2]
  | none =>
    have hnone := List.findIdx?_eq_none_iff.1 hscan
    cases hname : cell.ant with
    | none => rfl
    | some id =>
      -- The ant that the cell names was not found, so it fails the test.
      obtain ⟨ant, hant, halive, hpos⟩ := (h.occupant_iff hcell).1 hname
      have hmem : ant ∈ game.ants.toList := Array.mem_toList_iff.2 (Array.mem_of_getElem? hant)
      have hfails := hnone ant hmem
      simp only [halive, hpos, decide_true, Bool.and_self, Bool.true_and] at hfails
      have hant' : game.ant? id = some ant := hant
      simp [hant', hfails]

theorem isSome_scan? (h : game.Agrees) (hcell : game.board.cell? i = some cell)
    (test : Ant → Bool) : (game.scan? i test).isSome = (cell.ant.bind game.ant?).any test := by
  rw [scan?_eq h hcell test]
  cases cell.ant with
  | none => rfl
  | some id =>
    cases hant : game.ant? id with
    | none => simp [hant]
    | some ant => cases htest : test ant <;> simp [hant, htest]

theorem senses_eq_scanSenses (h : game.Agrees) (i : Option Nat) (color : Color)
    (cond : Condition) : game.senses i color cond = game.scanSenses i color cond := by
  cases i with
  | none => rfl
  | some i =>
    cases hcell : game.board.cell? i with
    | none => simp [senses, scanSenses, hcell]
    | some cell =>
      simp only [senses, scanSenses, Option.bind_some, hcell, Option.map_some]
      cases cond <;> simp only [scanHolds, holdsOn, isSome_scan? h hcell]

theorem isAvailable_eq_scan (h : game.Agrees) (hcell : game.board.cell? i = some cell) :
    cell.isAvailable = (!cell.isRock && (game.scan? i fun _ => true).isNone) := by
  rw [scan?_eq h hcell, Cell.isAvailable]
  cases hname : cell.ant with
  | none => rfl
  | some id =>
    obtain ⟨ant, hant, -⟩ := (h.occupant_iff hcell).1 hname
    have hant' : game.ant? id = some ant := hant
    simp [hant']

theorem adjacentEnemies_eq_scanEnemies (h : game.Agrees) (id : Nat) :
    game.adjacentEnemies id = game.scanEnemies id := by
  rw [adjacentEnemies, scanEnemies]
  cases game.ant? id with
  | none => rfl
  | some ant =>
    refine List.filterMap_congr fun d _ => ?_
    simp only [enemyToward?, Option.bind_eq_bind]
    cases game.board.neighbor? ant.pos d with
    | none => rfl
    | some i =>
      simp only [Option.bind_some]
      cases hcell : game.board.cell? i with
      | some cell =>
        rw [scan?_eq h hcell]
        simp
      | none =>
        -- Where there is no cell there is no ant in the list either.
        rw [Option.bind_none, eq_comm, scan?, List.findIdx?_eq_none_iff]
        intro other hmem
        obtain ⟨id, hid⟩ := Array.mem_iff_getElem?.1 (Array.mem_toList_iff.1 hmem)
        obtain ⟨cell, hcell', -⟩ := h.grounded hid
        have hpos : other.pos ≠ i := by
          rintro rfl
          simp [hcell] at hcell'
        simp [hpos]

/-! ### Who stands where -/

/-- What holds of the ants of a game on a world. -/
structure Census (world : WorldMap) (game : Game) : Prop where
  /-- There is one ant for every hill cell. -/
  size_eq : game.ants.size = world.hills.length
  /-- The ant at a place in the list has this place as its number and the colour of the hill cell
  with this number. -/
  badge_eq : ∀ {id : Nat} {ant : Ant}, game.ant? id = some ant →
    ant.id = id ∧ world.hills[id]?.map Prod.snd = some ant.color
  /-- A cell names exactly the living ant that stands on it. -/
  occupant_iff : ∀ {i id : Nat} {cell : Cell}, game.board.cell? i = some cell →
    (cell.ant = some id ↔ ∃ ant, game.ant? id = some ant ∧ ant.alive = true ∧ ant.pos = i)
  /-- No two living ants share a cell. -/
  pos_injective : ∀ {id id' : Nat} {ant ant' : Ant}, game.ant? id = some ant →
    ant.alive = true → game.ant? id' = some ant' → ant'.alive = true → ant.pos = ant'.pos → id = id'
  /-- No living ant stands on rock or off the board. -/
  off_rock : ∀ {id : Nat} {ant : Ant}, game.ant? id = some ant → ant.alive = true →
    ∃ cell, game.board.cell? ant.pos = some cell ∧ cell.isRock = false
  /-- A dead ant carries nothing, and no cell names it. -/
  dead : ∀ {id : Nat} {ant : Ant}, game.ant? id = some ant → ant.alive = false →
    ant.hasFood = false ∧ ∀ {i : Nat} {cell : Cell}, game.board.cell? i = some cell →
      cell.ant ≠ some id
  /-- What is sensed on a cell is what the list of ants says. -/
  senses_eq : ∀ (i : Option Nat) (color : Color) (cond : Condition),
    game.senses i color cond = game.scanSenses i color cond
  /-- A cell is available if it is no rock and no ant in the list stands there. -/
  isAvailable_eq : ∀ {i : Nat} {cell : Cell}, game.board.cell? i = some cell →
    cell.isAvailable = (!cell.isRock && (game.scan? i fun _ => true).isNone)
  /-- The enemies around an ant are those in the list of ants. -/
  adjacentEnemies_eq : ∀ id : Nat, game.adjacentEnemies id = game.scanEnemies id

variable {world : WorldMap} {redBrain blackBrain : Brain} {rng : Rng}

/-- A game on a world starts with one ant on every hill cell, in the order of the cells, and in
every state that it can come to the census holds. -/
theorem census_of_reachable
    (hreach : Reachable (start redBrain blackBrain (Board.ofMap world) rng) game) :
    (start redBrain blackBrain (Board.ofMap world) rng).ants.toList =
        world.hills.zipIdx.map (fun ((i, color), id) => Ant.spawn id color i) ∧
      Census world game := by
  have hagrees : game.Agrees := hreach.agrees (agrees_start (Board.vacant_ofMap world))
  have hbadge (id : Nat) : (game.ant? id).map Ant.badge =
      world.hills[id]?.map fun hill => (id, hill.2) := by
    rw [hreach.badge?, Board.hills_ofMap]
  have hsize : game.ants.size = world.hills.length := by
    rw [hreach.size_ants, ← Array.length_toList, ants_start, List.length_map, List.length_zipIdx,
      Board.hills_ofMap]
  refine ⟨by rw [ants_start, Board.hills_ofMap], hsize, ?_, hagrees.occupant_iff,
    hagrees.eq_of_pos_eq, fun hant _ => hagrees.grounded hant, ?_, senses_eq_scanSenses hagrees,
    isAvailable_eq_scan hagrees, adjacentEnemies_eq_scanEnemies hagrees⟩
  · intro id ant hant
    have hid := hbadge id
    rw [hant, Option.map_some, eq_comm, Option.map_eq_some_iff] at hid
    obtain ⟨hill, hhill, hsame⟩ := hid
    obtain ⟨hid, hcolor⟩ := Prod.mk.inj hsame
    exact ⟨hid.symm, by rw [hhill, Option.map_some, hcolor]⟩
  · intro id ant hant hdead
    refine ⟨hagrees.empty_handed hant hdead, fun {i cell} hcell hname => ?_⟩
    obtain ⟨ant', hant', halive, -⟩ := (hagrees.occupant_iff hcell).1 hname
    obtain rfl : ant = ant' := Option.some.inj (hant.symm.trans hant')
    simp [hdead] at halive

/-- After the first tick of the siege the black ant is dead and the census holds. -/
theorem census_siege :
    Reachable siege siege.tick ∧ (siege.tick.ant? 2).map Ant.alive = some false ∧
      Census siegeWorld siege.tick :=
  ⟨.tick .refl, by decide +kernel, (census_of_reachable (.tick .refl)).2⟩

end Game

end Formicary
