import Formicary.Proofs.Game.Chance
import Formicary.Proofs.Game.Confinement
import Formicary.Proofs.Game.Footprint

/-!
# Colonies with rock between them

If no way over open ground leads from one hill to the other, the colonies never meet: each keeps to
its own territory (`Confined.mem_territory`), and a cell next to a territory belongs to it or is
rock. So no ant ever has an enemy next to it, and none ever dies (`Reachable.peaceful`).

Nor can a colony learn anything of the other one. All that an ant looks at is territory of its own
colony or rock, and all that it touches is its own territory. Only the generator is shared, so a
colony must not let it decide anything: its brain is to be `Brain.Tame`. Then the colony does the
same against every opponent (`colony_undisturbed`).
-/

namespace Formicary

namespace WorldMap

variable {world : WorldMap} {color color' : Color} {h : Hex}

/-- No way over open ground leads from one hill to the other. -/
def Walled (world : WorldMap) : Prop :=
  ∀ a b, world.tile? a = some (.hill .red) → world.tile? b = some (.hill .black) →
    ¬Hex.Joined world.openCells a b

/-- The cells to which a way over open ground leads from the hill of a colony. -/
def territory (world : WorldMap) (color : Color) : Set Hex :=
  {h | ∃ hill, world.tile? hill = some (.hill color) ∧ Hex.Joined world.openCells hill h}

/-- The open cells next to a territory belong to it. -/
theorem mem_territory_of_adjacent {h' : Hex} (hmem : h ∈ world.territory color)
    (hadjacent : h.Adjacent h') (hopen : h' ∈ world.openCells) : h' ∈ world.territory color := by
  obtain ⟨hill, htile, hjoined⟩ := hmem
  exact ⟨hill, htile, hjoined.trans (.of_adjacent hadjacent hopen)⟩

/-- With rock between the hills, no cell is in both territories. -/
theorem Walled.eq_of_mem_territory (hwalled : world.Walled) (hmem : h ∈ world.territory color)
    (hmem' : h ∈ world.territory color') : color = color' := by
  have hback {color : Color} {hill : Hex} (htile : world.tile? hill = some (.hill color))
      (hjoined : Hex.Joined world.openCells hill h) : Hex.Joined world.openCells h hill :=
    hjoined.symm ⟨_, htile, by simp⟩
  obtain ⟨hill, htile, hjoined⟩ := hmem
  obtain ⟨hill', htile', hjoined'⟩ := hmem'
  cases color <;> cases color'
  · rfl
  · exact absurd (hjoined.trans (hback htile' hjoined')) (hwalled _ _ htile htile')
  · exact absurd (hjoined'.trans (hback htile hjoined)) (hwalled _ _ htile' htile)
  · rfl

end WorldMap

namespace Game

variable {world : WorldMap} {color : Color} {first game game' : Game} {id : Nat} {ant : Ant}

/-! ### Peace -/

/-- Every ant is in the territory of its colony. -/
theorem Confined.mem_territory (h : game.Confined world) (hant : game.ant? id = some ant) :
    world.hex ant.pos ∈ world.territory ant.color := by
  obtain ⟨hill, hhill, hjoined⟩ := h hant
  exact ⟨_, WorldMap.tile?_of_mem_hills (List.mem_of_getElem? hhill), hjoined⟩

/-- The ants keep to their ground, and nobody has died. -/
structure Peaceful (world : WorldMap) (game : Game) : Prop extends Enclosed world game where
  /-- All ants live. -/
  alive : ∀ {id : Nat} {ant : Ant}, game.ant? id = some ant → ant.alive = true

/-- With rock between the hills nobody is next to an enemy, so nobody is surrounded. -/
theorem Peaceful.not_isSurrounded (h : game.Peaceful world) (hwalled : world.Walled) (id : Nat) :
    game.isSurrounded id = false := by
  rw [Bool.eq_false_iff]
  intro hsurrounded
  obtain ⟨d, ant, other, enemy, hant, henemy, hlink, hcolor⟩ :=
    exists_enemy_of_isSurrounded h.agrees hsurrounded
  obtain ⟨cell, hcell, hrock⟩ := h.agrees.grounded henemy
  -- The cell of the enemy is open and next to the territory of the ant, so it is in both.
  have hnext := WorldMap.mem_territory_of_adjacent (h.confined.mem_territory hant)
    ⟨d, (h.laidOut.hex_of_neighbor? hlink).symm⟩ ((h.laidOut.mem_openCells_iff hcell).2 hrock)
  exact hcolor (hwalled.eq_of_mem_territory (h.confined.mem_territory henemy) hnext)

/-- No elementary change breaks the peace. -/
theorem Change.peaceful (h : Change game game') (hwalled : world.Walled)
    (hpeace : game.Peaceful world) : game'.Peaceful world where
  toEnclosed := h.enclosed hpeace.toEnclosed
  alive {id ant'} hant' := by
    obtain ⟨ant, hant, -, -, hlives | hsurrounded⟩ := h.ant_cases hant'
    · rw [hlives, hpeace.alive hant]
    · rw [hpeace.not_isSurrounded hwalled] at hsurrounded
      cases hsurrounded

/-- With rock between the hills there is peace for ever. -/
theorem Reachable.peaceful (h : Reachable first game) (hwalled : world.Walled)
    (hfirst : first.Peaceful world) : game.Peaceful world :=
  h.keep (P := Peaceful world) hfirst (fun hchange ih => hchange.peaceful hwalled ih)
    (fun _ ih => ⟨⟨ih.laidOut, ih.agrees, ih.confined⟩, ih.alive⟩)
    fun _ ih => ⟨⟨ih.laidOut, ih.agrees, ih.confined⟩, ih.alive⟩

theorem peaceful_start (redBrain blackBrain : Brain) (world : WorldMap) (rng : Rng) :
    (start redBrain blackBrain (.ofMap world) rng).Peaceful world where
  toEnclosed := enclosed_start ..
  alive {id ant} hant := by
    rw [ant?_start] at hant
    obtain ⟨hill, -, rfl⟩ := Option.map_eq_some_iff.1 hant
    rfl

/-! ### What a colony sees -/

/-- The cells that ants of a colony look at: its territory and rock. -/
def sight (world : WorldMap) (color : Color) : Set Nat :=
  {i | world.hex i ∈ world.openCells → world.hex i ∈ world.territory color}

/-- The ants of a colony. -/
def members (world : WorldMap) (color : Color) : Set Nat :=
  {id | ∃ hill, world.hills[id]? = some (hill, color)}

/-- Two games are compared as far as a colony sees them, whatever the generators are. -/
def outlook (world : WorldMap) (color : Color) : Comparison where
  toTransfer := .same
  cells := sight world color
  ants := members world color
  Aside _ _ _ _ := True

/-- As nothing is renamed, games are alike if the one has spared what is looked at of the other. -/
theorem alike_outlook_iff :
    (outlook world color).Alike game game' ↔
      Spares (members world color) (sight world color) game game' := by
  have hant : (outlook world color).ant = id := rfl
  have hcell : (outlook world color).cell = id := funext Transfer.cell_same
  constructor
  · rintro ⟨hants, hcells, -⟩
    refine ⟨fun hid => ?_, fun hi => ?_⟩
    · rw [hants hid, hant, Option.map_id, id]
    · exact (hcells hi).trans (by rw [hcell, Option.map_id, id])
  · rintro ⟨hants, hcells⟩
    refine ⟨fun hid => ?_, fun hi => ?_, trivial⟩
    · rw [hants hid, hant, Option.map_id, id]
    · exact (hcells hi).trans (by rw [hcell, Option.map_id, id])

theorem Confined.mem_members_iff (h : game.Confined world) (hant : game.ant? id = some ant) :
    id ∈ members world color ↔ ant.color = color := by
  obtain ⟨hill, hhill, -⟩ := h hant
  simp [members, hhill]

theorem mem_sight_of_territory {i : Nat} (hmem : world.hex i ∈ world.territory color) :
    i ∈ sight world color := fun _ => hmem

/-- The cells next to an ant are in sight of its colony. -/
theorem Peaceful.neighbor_mem_sight {j : Nat} {d : Direction} (h : game.Peaceful world)
    (hant : game.ant? id = some ant) (hlink : game.board.neighbor? ant.pos d = some j) :
    j ∈ sight world ant.color := by
  intro hopen
  exact WorldMap.mem_territory_of_adjacent (h.confined.mem_territory hant)
    ⟨d, (h.laidOut.hex_of_neighbor? hlink).symm⟩ hopen

/-- What is open and in sight of a colony is out of the other colony's territory. -/
theorem notMem_sight_of_territory {i : Nat} {color' : Color} (hwalled : world.Walled)
    (hopen : world.hex i ∈ world.openCells) (hmem : world.hex i ∈ world.territory color')
    (hcolor : color' ≠ color) : i ∉ sight world color :=
  fun hsight => hcolor (hwalled.eq_of_mem_territory hmem (hsight hopen))

/-- A step of an ant of the other colony is out of sight. -/
theorem Peaceful.spares_stepAnt (h : game.Peaceful world) (hwalled : world.Walled)
    (hid : id ∉ members world color) :
    Spares (members world color) (sight world color) game (game.stepAnt id) := by
  cases hant : game.ant? id with
  | none =>
    rw [stepAnt, hant]
    exact .refl game
  | some ant =>
    have hcolor : ant.color ≠ color := fun hsame => hid ((h.confined.mem_members_iff hant).2 hsame)
    have hterritory := h.confined.mem_territory hant
    obtain ⟨cell, hcell, hrock⟩ := h.agrees.grounded hant
    have hpos : ant.pos ∉ sight world color := notMem_sight_of_territory hwalled
      ((h.laidOut.mem_openCells_iff hcell).2 hrock) hterritory hcolor
    refine Game.spares_stepAnt hid hpos (fun dest hopen => ?_) hant
    have hmoved : Change game (game.relocate id ant dest) := .relocate hant (h.alive hant) hopen
    refine spares_move_of_peace hid hpos ?_ fun other =>
      (hmoved.peaceful hwalled h).not_isSurrounded hwalled other
    obtain ⟨hlink, cell', hcell', havailable⟩ := openAhead?_eq_some_iff.1 hopen
    have hground := (h.laidOut.mem_openCells_iff hcell').2
      (Cell.isAvailable_eq_true_iff.1 havailable).1
    exact notMem_sight_of_territory hwalled hground (h.neighbor_mem_sight hant hlink hground) hcolor

/-! ### Two games -/

/-- Two peaceful games in which a colony has the same tame brain. -/
structure Rivals (world : WorldMap) (color : Color) (game game' : Game) : Prop where
  /-- The first game is peaceful. -/
  left : game.Peaceful world
  /-- The second game is peaceful. -/
  right : game'.Peaceful world
  /-- The colony has the same brain in both games. -/
  brain_eq : game'.brain color = game.brain color
  /-- Nothing that the colony does depends on draws. -/
  tame : (game.brain color).Tame
  /-- There are as many ants in both games. -/
  size_eq : game'.ants.size = game.ants.size

/-- What a colony sees stays the same in both games. -/
theorem lasting_outlook (hwalled : world.Walled) (color : Color) :
    (outlook world color).Lasting (Rivals world color) where
  left h hchange :=
    { left := hchange.peaceful hwalled h.left
      right := h.right
      brain_eq := by rw [hchange.brain, h.brain_eq]
      tame := by
        rw [hchange.brain]
        exact h.tame
      size_eq := by rw [hchange.size_ants, h.size_eq] }
  right h hchange :=
    { left := h.left
      right := hchange.peaceful hwalled h.right
      brain_eq := by rw [hchange.brain, h.brain_eq]
      tame := h.tame
      size_eq := by rw [hchange.size_ants, h.size_eq] }
  place_injOn := Set.injOn_id _
  pos_mem {game game' id ant} h hid hant _ := by
    have hcolor := (h.left.confined.mem_members_iff hant).1 hid
    exact mem_sight_of_territory (hcolor ▸ h.left.confined.mem_territory hant)
  occupant_mem {game game' i id cell} h hi hcell hname := by
    obtain ⟨ant, hant, -, rfl⟩ := (h.left.agrees.occupant_iff hcell).1 hname
    obtain ⟨own, hown, hrock⟩ := h.left.agrees.grounded hant
    -- The ant stands on open ground, and that is in sight as territory only.
    have hterritory := hi ((h.left.laidOut.mem_openCells_iff hown).2 hrock)
    exact (h.left.confined.mem_members_iff hant).2
      (hwalled.eq_of_mem_territory (h.left.confined.mem_territory hant) hterritory)
  brain_eq {game game' id ant} h hid hant := by
    have hcolor := (h.left.confined.mem_members_iff hant).1 hid
    rw [hcolor]
    exact h.brain_eq
  neighbor {game game' id ant} h halike hid hant _ d := by
    have hcolor := (h.left.confined.mem_members_iff hant).1 hid
    refine halike.meets (fun _ => rfl) (fun _ _ _ => rfl)
      (mem_sight_of_territory (hcolor ▸ h.left.confined.mem_territory hant)) fun j hlink => ?_
    exact hcolor ▸ h.left.neighbor_mem_sight hant hlink
  record _ _ := trivial
  draw {game game' id bound onZero otherwise} h _ hid hinstruction := by
    refine ⟨trivial, ?_⟩
    obtain ⟨ant, hant, hget⟩ := Option.bind_eq_some_iff.1 hinstruction
    have hcolor := (h.left.confined.mem_members_iff hant).1 hid
    rw [hcolor] at hget
    exact h.tame.draw_eq hget ..

/-- The games stay alike in the eyes of the colony, whoever steps. -/
theorem Rivals.alike_stepAnt (hwalled : world.Walled) (h : Rivals world color game game')
    (halike : (outlook world color).Alike game game') (id : Nat) :
    (outlook world color).Alike (game.stepAnt id) (game'.stepAnt id) := by
  by_cases hid : id ∈ members world color
  · exact (lasting_outlook hwalled color).stepAnt h halike hid
  · -- Each game spares what the colony sees of it, and it saw the same before.
    have hleft := h.left.spares_stepAnt hwalled hid
    have hright := h.right.spares_stepAnt hwalled hid
    exact alike_outlook_iff.2 ((hleft.symm.trans (alike_outlook_iff.1 halike)).trans hright)

theorem Rivals.run (hwalled : world.Walled) (h : Rivals world color game game')
    (halike : (outlook world color).Alike game game') (n : Nat) :
    Rivals world color (game.run n) (game'.run n) ∧
      (outlook world color).Alike (game.run n) (game'.run n) := by
  refine run_related (R := fun game game' => Rivals world color game game' ∧
    (outlook world color).Alike game game') ?_ ?_ ?_ ⟨h, halike⟩ n
  · rintro game game' ⟨h, -⟩
    exact h.size_eq
  · rintro game game' id ⟨h, halike⟩
    exact ⟨(lasting_outlook hwalled color).related_stepAnt h id,
      h.alike_stepAnt hwalled halike id⟩
  · rintro game game' ⟨h, halike⟩
    have hleft := (Reachable.count .refl).peaceful hwalled h.left
    have hright := (Reachable.count .refl).peaceful hwalled h.right
    exact ⟨⟨hleft, hright, h.brain_eq, h.tame, h.size_eq⟩, halike.count⟩

/-- At the start the games differ in the brain of the other colony only, and in the generator. -/
theorem rivals_start {brains brains' : Color → Brain} (hbrain : brains' color = brains color)
    (htame : (brains color).Tame) (rng rng' : Rng) :
    Rivals world color (start (brains .red) (brains .black) (.ofMap world) rng)
      (start (brains' .red) (brains' .black) (.ofMap world) rng') := by
  have hstart (brains : Color → Brain) (rng : Rng) :
      (start (brains .red) (brains .black) (.ofMap world) rng).brain color = brains color := by
    cases color <;> rfl
  refine ⟨peaceful_start .., peaceful_start .., ?_, ?_, rfl⟩
  · rw [hstart, hstart, hbrain]
  · rwa [hstart]

/-- Let no way over open ground lead from one hill to the other. Then no ant ever dies; and a
colony with a tame brain does the same against every brain of the other colony and whatever is
drawn: after every number of ticks its ants are the same in every respect, and so is everything on
the cells of its territory. -/
theorem colony_undisturbed (hwalled : world.Walled) (color : Color) (brains brains' : Color → Brain)
    (hbrain : brains' color = brains color) (htame : (brains color).Tame) (rng rng' : Rng)
    (n : Nat) :
    let game := (start (brains .red) (brains .black) (.ofMap world) rng).run n
    let game' := (start (brains' .red) (brains' .black) (.ofMap world) rng').run n
    (∀ id ant, ant.color = color → (game'.ant? id = some ant ↔ game.ant? id = some ant)) ∧
      (∀ i < world.height * world.width, world.hex i ∈ world.territory color →
        ∃ cell, game.board.cell? i = some cell ∧ game'.board.cell? i = some cell) ∧
      ∀ id ant, game.ant? id = some ant ∨ game'.ant? id = some ant → ant.alive = true := by
  intro game game'
  have hfirst : Rivals world color (start (brains .red) (brains .black) (.ofMap world) rng)
      (start (brains' .red) (brains' .black) (.ofMap world) rng') :=
    rivals_start hbrain htame rng rng'
  obtain ⟨h, halike⟩ : Rivals world color game game' ∧
      (outlook world color).Alike game game' :=
    hfirst.run hwalled (alike_outlook_iff.2 ⟨fun _ => rfl, fun _ => rfl⟩) n
  obtain ⟨hants, hcells⟩ := alike_outlook_iff.1 halike
  refine ⟨fun id ant hcolor => ?_, fun i hi hterritory => ?_, fun id ant hant => ?_⟩
  · constructor
    · intro hant
      rwa [← hants ((h.right.confined.mem_members_iff hant).2 hcolor)]
    · intro hant
      rwa [hants ((h.left.confined.mem_members_iff hant).2 hcolor)]
  · obtain ⟨cell, hcell⟩ := h.left.laidOut.exists_cell? hi
    exact ⟨cell, hcell, (hcells (mem_sight_of_territory hterritory)).trans hcell⟩
  · rcases hant with hant | hant
    · exact h.left.alive hant
    · exact h.right.alive hant

/-- Two hills on one row with rock between them. -/
def ditchWorld : WorldMap where
  width := 5
  height := 1
  tiles := #[.hill .red, .food 3, .rock, .clear, .hill .black]

/-- No way over open ground leads past the rock: a step goes on by one column at most. -/
theorem walled_ditchWorld : ditchWorld.Walled := by
  have hcases {h : Hex} {tile : Tile} (htile : ditchWorld.tile? h = some tile) :
      ∃ i < 5, ditchWorld.hex i = h ∧ ditchWorld.tiles[i]? = some tile := by
    rw [WorldMap.tile?] at htile
    split at htile
    next i hi => exact ⟨i, Frame.lt_of_index? hi, Frame.hex_of_index? hi, htile⟩
    next => cases htile
  have hcol {i : Nat} (hi : i < 5) : (ditchWorld.hex i).col = i := by
    rw [Frame.hex, Int.natCast_inj]
    exact Nat.mod_eq_of_lt hi
  intro a b ha hb hjoined
  obtain ⟨i, hi, rfl, hleft⟩ := hcases ha
  obtain ⟨j, hj, rfl, hright⟩ := hcases hb
  have hred : ∀ i < 5, ditchWorld.tiles[i]? = some (.hill .red) → i = 0 := by decide
  have hblack : ∀ i < 5, ditchWorld.tiles[i]? = some (.hill .black) → i = 4 := by decide
  -- From the columns before the rock every way stays in them.
  have hbefore : ditchWorld.hex j ∈ {h : Hex | h.col ≤ 1} := by
    refine hjoined.mem_of_closed ?_ fun x hx y hy hadjacent => ?_
    · change (ditchWorld.hex i).col ≤ 1
      rw [hcol hi, hred i hi hleft]
      decide
    · obtain ⟨tile, htile, hrock⟩ := hy
      obtain ⟨k, hk, rfl, htile⟩ := hcases htile
      have hnext := hadjacent.col_le
      have hne : k ≠ 2 := by
        rintro rfl
        exact hrock (Option.some.inj htile).symm
      change x.col ≤ 1 at hx
      change (ditchWorld.hex k).col ≤ 1
      rw [hcol hk] at hnext ⊢
      omega
  change (ditchWorld.hex j).col ≤ 1 at hbefore
  rw [hcol hj, hblack j hj hright] at hbefore
  exact absurd hbefore (by decide)

/-- A red brain that draws without need and fetches food, and a black one that turns on the spot. -/
def ditchBrains (side : Turn) : Color → Brain
  | .red => ⟨#[.flip 1 1 0, .move 2 2, .pickUp 3 0, .turn .left 1]⟩
  | .black => ⟨#[.turn side 0]⟩

/-- While the black ant turns left in one game and right in the other, the red ant behind the rock
takes up the same food in both. -/
theorem colony_undisturbed_ditch :
    let game (side : Turn) (seed : UInt64) := (start (ditchBrains side .red)
      (ditchBrains side .black) (.ofMap ditchWorld) (.ofSeed seed)).run 19
    let carrier : Ant :=
      { id := 0, color := .red, pos := 1, state := 2, dir := .northEast, hasFood := true }
    ditchWorld.Walled ∧ (ditchBrains .left .red).Tame ∧
      (game .right 2).ant? 1 ≠ (game .left 1).ant? 1 ∧
      (game .left 1).ant? 0 = some carrier ∧ (game .right 2).ant? 0 = some carrier := by
  intro game carrier
  have htame : (ditchBrains .left .red).Tame := by
    intro instruction hmem
    simp only [ditchBrains, List.mem_toArray, List.mem_cons, List.not_mem_nil, or_false] at hmem
    rcases hmem with rfl | rfl | rfl | rfl <;> simp [Instruction.Tame]
  have hcarrier : (game .left 1).ant? 0 = some carrier := by decide +kernel
  obtain ⟨hants, -, -⟩ := colony_undisturbed walled_ditchWorld .red (ditchBrains .left)
    (ditchBrains .right) rfl htame (.ofSeed 1) (.ofSeed 2) 19
  exact ⟨walled_ditchWorld, htame, by decide +kernel, hcarrier, (hants 0 carrier rfl).2 hcarrier⟩

end Game

end Formicary
