import Formicary.Proofs.Board.Transfer
import Formicary.Proofs.Game.Death
import Mathlib.Data.Set.Function

/-!
# Comparing two games

Two games are compared cell by cell and ant by ant: a `Comparison` says which cells and ants of the
first game are looked at, and how they are called in the second one. The games are `Alike` if what
is looked at is the same but for the names.

They stay alike as long as nothing that is not looked at has an influence on anything that is:
the ants looked at stand on cells looked at, the cells around them are looked at, and so are the
ants on these cells. A game has no other way to find anything, so an ant that is looked at then
takes the same step in both games (`Lasting.stepAnt`). What it comes to in a single case is to be
shown of the case: `Lasting` lists the conditions, on a relation between the games that elementary
changes of either of them keep.

Where the board of the first game ends, the second may go on with bare rock. Nothing tells the one
from the other.
-/

namespace Formicary

/-- A comparison of two games. -/
structure Comparison extends Transfer where
  /-- The cells of the first game that are looked at. -/
  cells : Set Nat := Set.univ
  /-- The ants that are looked at, by their numbers in both games. -/
  ants : Set Nat := Set.univ
  /-- What is asked of the generators and recorders of the two games. -/
  Aside : Rng → Recorder → Rng → Recorder → Prop

namespace Comparison

/-- What is looked at is the same in both games, but for its names. -/
structure Alike (c : Comparison) (game game' : Game) : Prop where
  /-- The ants looked at are the same. -/
  ant?_eq : ∀ {id : Nat}, id ∈ c.ants → game'.ant? id = (game.ant? id).map c.ant
  /-- The cells looked at are the same. -/
  cell?_eq : ∀ {i : Nat}, i ∈ c.cells →
    game'.board.cell? (c.place i) = (game.board.cell? i).map c.cell
  /-- The generators and recorders are as they should be. -/
  aside : c.Aside game.rng game.recorder game'.rng game'.recorder

/-- Two ways on from corresponding cells. -/
inductive Meets (c : Comparison) (board' : Board) : Option Nat → Option Nat → Prop
  /-- Both lead to a cell that is looked at. -/
  | cell {i : Nat} (hi : i ∈ c.cells) : Meets c board' (some i) (some (c.place i))
  /-- Both lead off the board. -/
  | missing : Meets c board' none none
  /-- The first leads off the board and the second to bare rock. -/
  | rock {k : Nat} {cell' : Cell} (hcell' : board'.cell? k = some cell')
    (hrock : cell'.isRock = true) (hbare : cell'.Bare) : Meets c board' none (some k)

/-- What keeps games alike that are related to each other. -/
structure Lasting (c : Comparison) (Related : Game → Game → Prop) : Prop where
  /-- The first game stays related to the second. -/
  left : ∀ {game after game' : Game}, Related game game' → Game.Change game after →
    Related after game'
  /-- The second game stays related to the first. -/
  right : ∀ {game game' after' : Game}, Related game game' → Game.Change game' after' →
    Related game after'
  /-- Different cells that are looked at have different numbers in the second game. -/
  place_injOn : Set.InjOn c.place c.cells
  /-- The living ants looked at stand on cells that are looked at. -/
  pos_mem : ∀ {game game' : Game} {id : Nat} {ant : Ant}, Related game game' → id ∈ c.ants →
    game.ant? id = some ant → ant.alive = true → ant.pos ∈ c.cells
  /-- On the cells looked at stand ants that are looked at. -/
  occupant_mem : ∀ {game game' : Game} {i id : Nat} {cell : Cell}, Related game game' →
    i ∈ c.cells → game.board.cell? i = some cell → cell.ant = some id → id ∈ c.ants
  /-- The ants looked at have the same brain in both games. -/
  brain_eq : ∀ {game game' : Game} {id : Nat} {ant : Ant}, Related game game' → id ∈ c.ants →
    game.ant? id = some ant → game'.brain (c.color ant.color) = game.brain ant.color
  /-- Around the ants looked at are cells that are looked at, or the end of the board. -/
  neighbor : ∀ {game game' : Game} {id : Nat} {ant : Ant}, Related game game' →
    c.Alike game game' → id ∈ c.ants → game.ant? id = some ant → ant.alive = true →
      ∀ d, c.Meets game'.board (game.board.neighbor? ant.pos d)
        (game'.board.neighbor? (c.place ant.pos) d)
  /-- Both recorders may be handed the same event. -/
  record : ∀ {rng rng' : Rng} {recorder recorder' : Recorder},
    c.Aside rng recorder rng' recorder' →
      ∀ event, c.Aside rng (recorder.record event) rng' (recorder'.record (c.event event))
  /-- An ant looked at that draws goes on to the same state in both games. -/
  draw : ∀ {game game' : Game} {id : Nat} {bound : UInt32} {onZero otherwise : Nat},
    Related game game' → c.Alike game game' → id ∈ c.ants →
      game.instruction? id = some (.flip bound onZero otherwise) →
        c.Aside (game.rng.below bound).2 game.recorder (game'.rng.below bound).2 game'.recorder ∧
          (if (game'.rng.below bound).1 = 0 then onZero else otherwise) =
            if (game.rng.below bound).1 = 0 then onZero else otherwise

end Comparison

/-- The comparison of what is on the given cells and of all ants, where the generators are to be
equal and the recorders to be told the same. -/
def Transfer.comparison (t : Transfer) (cells : Set Nat) : Comparison where
  toTransfer := t
  cells := cells
  ants := .univ
  Aside rng recorder rng' recorder' := rng' = rng ∧ recorder' = t.recorder recorder

namespace Transfer

variable {t : Transfer} {cells : Set Nat}

theorem record_comparison {rng rng' : Rng} {recorder recorder' : Recorder}
    (h : (t.comparison cells).Aside rng recorder rng' recorder') (event : Event) :
    (t.comparison cells).Aside rng (recorder.record event) rng'
      (recorder'.record (t.event event)) := by
  obtain ⟨rfl, rfl⟩ := h
  exact ⟨rfl, t.recorder_record recorder event⟩

/-- Equal generators draw the same. -/
theorem draw_comparison {rng rng' : Rng} {recorder recorder' : Recorder}
    (h : (t.comparison cells).Aside rng recorder rng' recorder') (bound : UInt32)
    (onZero otherwise : Nat) :
    (t.comparison cells).Aside (rng.below bound).2 recorder (rng'.below bound).2 recorder' ∧
      (if (rng'.below bound).1 = 0 then onZero else otherwise) =
        if (rng.below bound).1 = 0 then onZero else otherwise := by
  obtain ⟨rfl, rfl⟩ := h
  exact ⟨⟨rfl, rfl⟩, rfl⟩

end Transfer

namespace Comparison

variable {c : Comparison} {Related : Game → Game → Prop} {game game' : Game} {id i : Nat}
  {ant : Ant} {cell : Cell}

/-! ### Changing cells and ants -/

theorem Alike.ant? (h : c.Alike game game') (hid : id ∈ c.ants) (hant : game.ant? id = some ant) :
    game'.ant? id = some (c.ant ant) := by
  rw [h.ant?_eq hid, hant, Option.map_some]

/-- If all ants are looked at, they are the same. -/
theorem Alike.ants_eq (h : c.Alike game game') (hants : ∀ id, id ∈ c.ants) :
    game'.ants = game.ants.map c.ant := by
  refine Array.ext_getElem? fun id => ?_
  rw [Array.getElem?_map]
  exact h.ant?_eq (hants id)

theorem Alike.size_ants (h : c.Alike game game') (hants : ∀ id, id ∈ c.ants) :
    game'.ants.size = game.ants.size := by
  rw [h.ants_eq hants, Array.size_map]

theorem Alike.count (h : c.Alike game game') :
    c.Alike { game with ticks := game.ticks + 1 } { game' with ticks := game'.ticks + 1 } :=
  ⟨h.ant?_eq, h.cell?_eq, h.aside⟩

theorem Alike.observe {recorder recorder' : Recorder} (h : c.Alike game game')
    (haside : c.Aside game.rng recorder game'.rng recorder') :
    c.Alike (game.observe recorder) (game'.observe recorder') :=
  ⟨h.ant?_eq, h.cell?_eq, haside⟩

/-- Ants may be changed alike. -/
theorem Alike.modifyAnt (h : c.Alike game game') (id : Nat) {f f' : Ant → Ant}
    (hf : ∀ ant, f' (c.ant ant) = c.ant (f ant)) :
    c.Alike (game.modifyAnt id f) (game'.modifyAnt id f') where
  ant?_eq {other} hother := by
    rw [Game.ant?_modifyAnt, Game.ant?_modifyAnt, h.ant?_eq hother]
    split
    · rw [Option.map_map, Option.map_map]
      exact Option.map_congr fun ant _ => hf ant
    · rfl
  cell?_eq hi := h.cell?_eq hi
  aside := h.aside

/-- Cells that are looked at may be changed alike. -/
theorem Alike.modifyCell (h : c.Alike game game') (hplace : Set.InjOn c.place c.cells)
    (hi : i ∈ c.cells) {f f' : Cell → Cell} (hf : ∀ cell, f' (c.cell cell) = c.cell (f cell)) :
    c.Alike (game.modifyCell i f) (game'.modifyCell (c.place i) f') where
  ant?_eq hid := h.ant?_eq hid
  cell?_eq {j} hj := by
    rw [Game.board_modifyCell, Game.board_modifyCell, Board.cell?_modify, Board.cell?_modify,
      h.cell?_eq hj]
    by_cases hij : i = j
    · rw [if_pos hij, if_pos (congrArg c.place hij), Option.map_map, Option.map_map]
      exact Option.map_congr fun cell _ => hf cell
    · rw [if_neg hij, if_neg fun hsame => hij (hplace hi hj hsame)]
  aside := h.aside

/-- Where cells keep their numbers and links, the same ways lead on from them. -/
theorem Alike.meets (h : c.Alike game game') (hplace : ∀ i, c.place i = i)
    (hlinks : ∀ row col links, c.links row col links = links) (hi : i ∈ c.cells) {d : Direction}
    (hmem : ∀ j, game.board.neighbor? i d = some j → j ∈ c.cells) :
    c.Meets game'.board (game.board.neighbor? i d) (game'.board.neighbor? (c.place i) d) := by
  have hsame : game'.board.neighbor? (c.place i) d = game.board.neighbor? i d := by
    rw [Board.neighbor?, h.cell?_eq hi, Board.neighbor?]
    cases game.board.cell? i with
    | none => rfl
    | some cell =>
      have hlink : (c.cell cell).link d = cell.link d := by
        rw [Cell.link, Transfer.cell, hlinks, Cell.link]
      exact hlink
  rw [hsame]
  cases hlink : game.board.neighbor? i d with
  | none => exact .missing
  | some j =>
    have hcell : c.Meets game'.board (some j) (some (c.place j)) := .cell (hmem j hlink)
    rwa [hplace] at hcell

namespace Lasting

variable (hc : c.Lasting Related)

include hc

/-- Both recorders may be told the same about a cell that is looked at. -/
theorem recordAt (h : c.Alike game game') (hi : i ∈ c.cells) {event event' : Cell → Event}
    (hevent : ∀ cell, event' (c.cell cell) = c.event (event cell)) :
    c.Alike (game.recordAt i event) (game'.recordAt (c.place i) event') := by
  rw [Game.recordAt, Game.recordAt, h.cell?_eq hi]
  cases game.board.cell? i with
  | none => exact h
  | some cell =>
    refine ⟨h.ant?_eq, h.cell?_eq, ?_⟩
    simp only [Option.map_some, hevent]
    exact hc.record h.aside (event cell)

/-- Food, markers and hands change alike in both games. -/
theorem recorded_change (h : c.Alike game game') (hi : i ∈ c.cells) {f f' : Cell → Cell}
    (hf : ∀ cell, f' (c.cell cell) = c.cell (f cell)) {g g' : Ant → Ant}
    (hg : ∀ ant, g' (c.ant ant) = c.ant (g ant)) {event event' : Cell → Event}
    (hevent : ∀ cell, event' (c.cell cell) = c.event (event cell)) :
    c.Alike (((game.modifyCell i f).modifyAnt id g).recordAt i event)
      (((game'.modifyCell (c.place i) f').modifyAnt id g').recordAt (c.place i) event') :=
  hc.recordAt ((h.modifyCell hc.place_injOn hi hf).modifyAnt id hg) hi hevent

/-- An ant that is looked at dies in both games. -/
theorem kill (hrelated : Related game game') (h : c.Alike game game') (hid : id ∈ c.ants)
    (hant : game.ant? id = some ant) (halive : ant.alive = true) :
    c.Alike (game.kill id) (game'.kill id) := by
  have hpos := hc.pos_mem hrelated hid hant halive
  have hremoved (cell : Cell) : ((c.cell cell).depositFood (Game.deathAmount ant)).removeAnt =
      c.cell (cell.depositFood (Game.deathAmount ant)).removeAnt := by
    rw [c.cell_depositFood, c.cell_removeAnt]
  have hdied : c.Alike
      (((game.modifyCell ant.pos fun cell =>
        (cell.depositFood (Game.deathAmount ant)).removeAnt).modifyAnt id Ant.die).recordAt ant.pos
          Game.foodEvent)
      (((game'.modifyCell (c.place ant.pos) fun cell =>
        (cell.depositFood (Game.deathAmount ant)).removeAnt).modifyAnt id Ant.die).recordAt
          (c.place ant.pos) Game.foodEvent) := by
    refine hc.recorded_change h hpos hremoved ?_ ?_ <;> exact fun _ => rfl
  rw [Game.kill, hant, Game.kill, h.ant? hid hant]
  exact hc.recordAt hdied hpos fun _ => rfl

/-! ### What an ant finds -/

/-- The ant on a cell that is looked at is the same in both games. -/
theorem occupant (hrelated : Related game game') (h : c.Alike game game') (hi : i ∈ c.cells)
    (hcell : game.board.cell? i = some cell) :
    cell.ant.bind game'.ant? = (cell.ant.bind game.ant?).map c.ant := by
  cases hname : cell.ant with
  | none => rfl
  | some other => exact h.ant?_eq (hc.occupant_mem hrelated hi hcell hname)

section Living

variable (hrelated : Related game game') (h : c.Alike game game') (hid : id ∈ c.ants)
  (hant : game.ant? id = some ant) (halive : ant.alive = true)

include hrelated h hid hant halive

theorem enemyToward?_eq (d : Direction) :
    game'.enemyToward? (c.ant ant) d = game.enemyToward? ant d := by
  have hmeets := hc.neighbor hrelated h hid hant halive d
  have hpos : (c.ant ant).pos = c.place ant.pos := rfl
  simp only [Game.enemyToward?, Option.bind_eq_bind, hpos]
  generalize hlink : game.board.neighbor? ant.pos d = link at hmeets
  generalize hlink' : game'.board.neighbor? (c.place ant.pos) d = link' at hmeets
  cases hmeets with
  | missing => rfl
  | @rock k cell' hcell' _ hbare =>
    -- Nobody stands on bare rock, and nobody beyond the end of the board.
    simp [hcell', hbare.ant_eq]
  | @cell i hi =>
    simp only [Option.bind_some, h.cell?_eq hi]
    cases hcell : game.board.cell? i with
    | none => rfl
    | some cell =>
      simp only [Option.map_some, Option.bind_some, c.ant_cell]
      cases hname : cell.ant with
      | none => rfl
      | some other =>
        simp only [Option.bind_some, h.ant?_eq (hc.occupant_mem hrelated hi hcell hname)]
        cases game.ant? other with
        | none => rfl
        | some enemy =>
          have hcolor : (c.ant enemy).color ≠ (c.ant ant).color ↔ enemy.color ≠ ant.color :=
            c.color_injective.ne_iff
          simp only [Option.map_some, Option.bind_some, hcolor]

theorem adjacentEnemies_eq : game'.adjacentEnemies id = game.adjacentEnemies id := by
  rw [Game.adjacentEnemies_eq hant, Game.adjacentEnemies_eq (h.ant? hid hant)]
  exact List.filterMap_congr fun d _ => hc.enemyToward?_eq hrelated h hid hant halive d

/-- The enemies next to an ant that is looked at are looked at. -/
theorem adjacentEnemies_subset : ∀ other ∈ game.adjacentEnemies id, other ∈ c.ants := by
  intro other hother
  rw [Game.adjacentEnemies_eq hant] at hother
  obtain ⟨d, -, hfound⟩ := List.mem_filterMap.1 hother
  have hmeets := hc.neighbor hrelated h hid hant halive d
  simp only [Game.enemyToward?, Option.bind_eq_bind, Option.bind_eq_some_iff] at hfound
  obtain ⟨i, hi, cell, hcell, found, hname, enemy, -, hcolor⟩ := hfound
  split at hcolor
  · obtain rfl := Option.some.inj hcolor
    -- The link was there, so it leads to a cell that is looked at.
    rw [hi] at hmeets
    generalize game'.board.neighbor? (c.place ant.pos) d = link' at hmeets
    cases hmeets with
    | cell hmem => exact hc.occupant_mem hrelated hmem hcell hname
  · cases hcolor

theorem sensedCell?_meets (dir : SenseDir) :
    c.Meets game'.board (game.sensedCell? ant dir) (game'.sensedCell? (c.ant ant) dir) := by
  cases dir with
  | here => exact .cell (hc.pos_mem hrelated hid hant halive)
  | ahead | leftAhead | rightAhead => exact hc.neighbor hrelated h hid hant halive _

theorem canPickUp_eq : game'.canPickUp (c.ant ant) = game.canPickUp ant := by
  have hpos : (c.ant ant).pos = c.place ant.pos := rfl
  have hfood : (c.ant ant).hasFood = ant.hasFood := rfl
  rw [Game.canPickUp, Game.canPickUp, hpos, hfood,
    h.cell?_eq (hc.pos_mem hrelated hid hant halive), Option.any_map]
  rfl

/-- The way ahead of an ant that is looked at is open in both games or in neither, and leads to a
cell that is looked at. -/
theorem openAhead?_eq :
    game'.openAhead? (c.ant ant) = (game.openAhead? ant).map c.place ∧
      ∀ dest, game.openAhead? ant = some dest → dest ∈ c.cells := by
  have hmeets := hc.neighbor hrelated h hid hant halive ant.dir
  have hpos : (c.ant ant).pos = c.place ant.pos := rfl
  have hdir : (c.ant ant).dir = ant.dir := rfl
  simp only [Game.openAhead?, Option.bind_eq_bind, hpos, hdir]
  generalize game.board.neighbor? ant.pos ant.dir = link at hmeets
  generalize game'.board.neighbor? (c.place ant.pos) ant.dir = link' at hmeets
  cases hmeets with
  | missing => simp
  | rock hcell' hrock _ =>
    -- Rock is as closed as the end of the board.
    simp [hcell', Cell.isAvailable, hrock]
  | @cell i hi =>
    simp only [Option.bind_some, h.cell?_eq hi]
    cases game.board.cell? i with
    | none => simp
    | some cell =>
      simp only [Option.map_some, Option.bind_some, c.isAvailable_cell]
      split
      · exact ⟨rfl, fun dest hdest => Option.some.inj hdest ▸ hi⟩
      · simp

end Living

theorem isSurrounded_eq (hrelated : Related game game') (h : c.Alike game game')
    (hid : id ∈ c.ants) : game'.isSurrounded id = game.isSurrounded id := by
  rw [Game.isSurrounded, Game.isSurrounded, h.ant?_eq hid]
  cases hant : game.ant? id with
  | none => rfl
  | some ant =>
    have hlives : (c.ant ant).alive = ant.alive := rfl
    simp only [Option.map_some, hlives]
    -- Around a dead ant nobody looks.
    cases halive : ant.alive with
    | false => rfl
    | true => rw [hc.adjacentEnemies_eq hrelated h hid hant halive]

/-- Ants that are looked at are checked with the same outcome in both games. -/
theorem settle {ids : List Nat} (hrelated : Related game game') (h : c.Alike game game')
    (hids : ∀ id ∈ ids, id ∈ c.ants) : c.Alike (game.settle ids) (game'.settle ids) := by
  -- On the ants to be checked; after each check the games are still related.
  induction ids generalizing game game' with
  | nil => exact h
  | cons id ids ih =>
    obtain ⟨hid, hids⟩ := List.forall_mem_cons.1 hids
    rw [Game.settle, Game.settle, List.foldl_cons, List.foldl_cons, Game.checkDeath,
      Game.checkDeath]
    have hsame := hc.isSurrounded_eq hrelated h hid
    by_cases hsurrounded : game.isSurrounded id = true
    · obtain ⟨ant, hant, halive, -⟩ := Game.isSurrounded_eq_true_iff.1 hsurrounded
      rw [if_pos hsurrounded, if_pos (hsame.trans hsurrounded)]
      have hboth := hc.right (hc.left hrelated (.kill hsurrounded))
        (.kill (hsame.trans hsurrounded))
      exact ih hboth (hc.kill hrelated h hid hant halive) hids
    · rw [if_neg hsurrounded, if_neg (hsame ▸ hsurrounded)]
      exact ih hrelated h hids

/-- What holds on a cell that is looked at holds on it in the second game. -/
theorem holdsOn_eq (hrelated : Related game game') (h : c.Alike game game') (hi : i ∈ c.cells)
    (hcell : game.board.cell? i = some cell) (color : Color) (cond : Condition) :
    game'.holdsOn (c.cell cell) (c.color color) cond = game.holdsOn cell color cond := by
  have hoccupant := hc.occupant hrelated h hi hcell
  have hcolor (ant : Ant) : (c.ant ant).color = c.color color ↔ ant.color = color :=
    c.color_injective.eq_iff
  have hfood (ant : Ant) : (c.ant ant).hasFood = ant.hasFood := rfl
  cases cond with
  | friend | foe | friendWithFood | foeWithFood =>
    simp only [Game.holdsOn, c.ant_cell, hoccupant, Option.any_map, ne_eq, hcolor, hfood]
  | food | rock | marker | foeMarker =>
    simp only [Game.holdsOn, ← c.color_other, c.hasFood_cell, c.isRock_cell, c.hasMarker_cell,
      c.hasAnyMarker_cell]
  | home | foeHome =>
    simp only [Game.holdsOn, ← c.color_other, c.terrain_cell_eq_hill_iff]

omit hc in
/-- On bare rock nothing holds but that it is rock. -/
theorem holdsOn_of_bare (hrock : cell.isRock = true) (hbare : cell.Bare) (color : Color)
    (cond : Condition) : game.holdsOn cell color cond = decide (cond = .rock) := by
  have hterrain : cell.terrain = .rock := of_decide_eq_true hrock
  rw [← hbare]
  cases cond <;> cases color <;>
    simp [Game.holdsOn, Cell.ground, Cell.hasFood, Cell.isRock, Cell.hasMarker,
      Cell.hasAnyMarker, Cell.marks, Color.other, hterrain]

/-- An ant that looks at corresponding places senses the same. -/
theorem senses_eq (hrelated : Related game game') (h : c.Alike game game')
    {target target' : Option Nat} (hmeets : c.Meets game'.board target target') (color : Color)
    (cond : Condition) :
    game'.senses target' (c.color color) cond = game.senses target color cond := by
  cases hmeets with
  | missing => rfl
  | rock hcell' hrock hbare =>
    simp only [Game.senses, Option.bind_some, hcell', Option.bind_none]
    exact holdsOn_of_bare hrock hbare ..
  | @cell i hi =>
    simp only [Game.senses, Option.bind_some, h.cell?_eq hi]
    cases hcell : game.board.cell? i with
    | none => rfl
    | some cell => exact hc.holdsOn_eq hrelated h hi hcell color cond

/-! ### Steps -/

/-- A move comes to the same in both games. -/
theorem move (hrelated : Related game game') (h : c.Alike game game') (hid : id ∈ c.ants)
    (hant : game.ant? id = some ant) (halive : ant.alive = true) {dest : Nat}
    (hopen : game.openAhead? ant = some dest) :
    c.Alike ((game.relocate id ant dest).resolveCombat id)
      ((game'.relocate id (c.ant ant) (c.place dest)).resolveCombat id) := by
  obtain ⟨hopen', hmem⟩ := hc.openAhead?_eq hrelated h hid hant halive
  rw [hopen, Option.map_some] at hopen'
  have hpos := hc.pos_mem hrelated hid hant halive
  -- The cell that is left, the cell that is entered and the ant change alike.
  have hmoved : c.Alike (game.relocate id ant dest)
      (game'.relocate id (c.ant ant) (c.place dest)) := by
    have hleft : c.Alike (game.modifyCell ant.pos Cell.removeAnt)
        (game'.modifyCell (c.place ant.pos) Cell.removeAnt) :=
      h.modifyCell hc.place_injOn hpos c.cell_removeAnt
    have hentered : c.Alike
        ((game.modifyCell ant.pos Cell.removeAnt).modifyCell dest (·.setAnt id))
        ((game'.modifyCell (c.place ant.pos) Cell.removeAnt).modifyCell (c.place dest)
          (·.setAnt id)) :=
      hleft.modifyCell hc.place_injOn (hmem dest hopen) fun cell => c.cell_setAnt cell id
    exact hentered.modifyAnt id fun _ => rfl
  have hboth := hc.right (hc.left hrelated (.relocate hant halive hopen))
    (.relocate (h.ant? hid hant) halive hopen')
  have hmover : (game.relocate id ant dest).ant? id = some (ant.moveTo dest).rest := by
    rw [Game.ant?_relocate, if_pos rfl, hant, Option.map_some]
  rw [Game.resolveCombat, Game.resolveCombat,
    hc.adjacentEnemies_eq hboth hmoved hid hmover halive]
  -- So the same ants are checked in both games, all of them looked at.
  refine hc.settle hboth hmoved fun other hother => ?_
  rcases List.mem_cons.1 hother with rfl | hother
  · exact hid
  · exact hc.adjacentEnemies_subset hboth hmoved hid hmover halive other hother

/-- An instruction goes on to the same state and leaves the games alike. -/
theorem execute (hrelated : Related game game') (h : c.Alike game game') (hid : id ∈ c.ants)
    (hant : game.ant? id = some ant) (halive : ant.alive = true) {instruction : Instruction}
    (hinstruction : game.instruction? id = some instruction) :
    (game'.execute id (c.ant ant) instruction).1 = (game.execute id ant instruction).1 ∧
      c.Alike (game.execute id ant instruction).2
        (game'.execute id (c.ant ant) instruction).2 := by
  -- The cell of an ant that is looked at is looked at too, and so is what the ant sees from there.
  have hpos := hc.pos_mem hrelated hid hant halive
  cases instruction with
  | sense dir cond onTrue onFalse =>
    have hsenses : game'.senses (game'.sensedCell? (c.ant ant) dir) (c.ant ant).color cond =
        game.senses (game.sensedCell? ant dir) ant.color cond :=
      hc.senses_eq hrelated h (hc.sensedCell?_meets hrelated h hid hant halive dir) _ cond
    simp only [Game.execute, hsenses, true_and]
    exact h
  | mark marker next =>
    exact ⟨rfl, hc.recordAt (h.modifyCell hc.place_injOn hpos
      fun cell => c.cell_addMarker cell ant.color marker) hpos fun _ => rfl⟩
  | unmark marker next =>
    exact ⟨rfl, hc.recordAt (h.modifyCell hc.place_injOn hpos
      fun cell => c.cell_removeMarker cell ant.color marker) hpos fun _ => rfl⟩
  | pickUp onSuccess onFail =>
    have htaken : c.Alike (game.takeFood id ant) (game'.takeFood id (c.ant ant)) := by
      refine hc.recorded_change h hpos c.cell_removeFood ?_ ?_ <;> exact fun _ => rfl
    rw [Game.execute, Game.execute, hc.canPickUp_eq hrelated h hid hant halive]
    split
    · exact ⟨rfl, htaken⟩
    · exact ⟨rfl, h⟩
  | drop next =>
    have hfood : (c.ant ant).hasFood = ant.hasFood := rfl
    have hlaid : c.Alike (game.layFood id ant) (game'.layFood id (c.ant ant)) := by
      refine hc.recorded_change h hpos (c.cell_depositFood · 1) ?_ ?_ <;> exact fun _ => rfl
    rw [Game.execute, Game.execute, hfood]
    split
    · exact ⟨rfl, hlaid⟩
    · exact ⟨rfl, h⟩
  | turn side next => exact ⟨rfl, h.modifyAnt id fun _ => rfl⟩
  | move onSuccess onFail =>
    rw [Game.execute, Game.execute, (hc.openAhead?_eq hrelated h hid hant halive).1]
    cases hopen : game.openAhead? ant with
    | none => exact ⟨rfl, h⟩
    | some dest => exact ⟨rfl, hc.move hrelated h hid hant halive hopen⟩
  | flip bound onZero otherwise =>
    obtain ⟨haside, hsame⟩ := hc.draw hrelated h hid hinstruction
    exact ⟨hsame, h.ant?_eq, h.cell?_eq, haside⟩

/-- An ant that is looked at takes the same step in both games. -/
theorem stepAnt (hrelated : Related game game') (h : c.Alike game game') (hid : id ∈ c.ants) :
    c.Alike (game.stepAnt id) (game'.stepAnt id) := by
  rw [Game.stepAnt, Game.stepAnt, h.ant?_eq hid]
  cases hant : game.ant? id with
  | none => exact h
  | some ant =>
    have hlives : (c.ant ant).alive = ant.alive := rfl
    have hrests : (c.ant ant).isResting = ant.isResting := rfl
    simp only [Option.map_some, hlives, hrests]
    split
    next => exact h
    next hnot =>
      have halive : ant.alive = true := by simpa using hnot
      split
      next => exact h.modifyAnt id fun _ => rfl
      next =>
        have hbrain : game'.brain (c.ant ant).color = game.brain ant.color :=
          hc.brain_eq hrelated hid hant
        have hstate : (c.ant ant).state = ant.state := rfl
        rw [Game.act, Game.act, hbrain, hstate]
        split
        next instruction hget =>
          have hinstruction : game.instruction? id = some instruction := by
            rw [Game.instruction?, hant, Option.bind_some, hget]
          -- The next state is noted last, and it is the same.
          obtain ⟨hnext, hafter⟩ := hc.execute hrelated h hid hant halive hinstruction
          simp only [hnext]
          exact hafter.modifyAnt id fun _ => rfl
        next => exact h

/-- The games stay related whichever ant steps. -/
theorem related_stepAnt (hrelated : Related game game') (id : Nat) :
    Related (game.stepAnt id) (game'.stepAnt id) := by
  -- Elementary changes of the first game come first, those of the second one after them.
  have hleft : Related (game.stepAnt id) game' :=
    (Game.changes_stepAnt game id).keep (P := fun after => Related after game')
      (fun hchange ih => hc.left ih hchange) hrelated
  exact (Game.changes_stepAnt game' id).keep (P := fun after' => Related (game.stepAnt id) after')
    (fun hchange ih => hc.right ih hchange) hleft

end Lasting

end Comparison

end Formicary
