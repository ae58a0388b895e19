import Formicary.Game.Score
import Formicary.Proofs.Game.Comparison
import Mathlib.Data.List.Sort
import Mathlib.Order.Monotone.Basic

/-!
# Comparing hills

Ants hatch in the order of the hill cells, and the food on the hill cells is the score. So two games
start alike if their hill cells correspond and come in the same order (`CoversHills.alike_start`),
and as long as they are alike, they have the same score (`CoversHills.teamScore_eq`).
-/

namespace Formicary

namespace Comparison

variable {c : Comparison} {game game' : Game}

/-- All hill cells are looked at, and they come in the same order on both boards. -/
structure CoversHills (c : Comparison) (board board' : Board) : Prop where
  /-- The cells looked at come in the same order. -/
  strictMonoOn : StrictMonoOn c.place c.cells
  /-- The hill cells of the first board are looked at. -/
  mem : ∀ {i : Nat} {color : Color}, board.hillColor? i = some color → i ∈ c.cells
  /-- The hill cells of the second board are cells that are looked at. -/
  exists_mem : ∀ {k : Nat} {color : Color}, board'.hillColor? k = some color →
    ∃ i ∈ c.cells, c.place i = k

variable {board board' : Board} {redBrain blackBrain redBrain' blackBrain' : Brain}
  {rng rng' : Rng}

/-- The hills are the same but for their names. -/
theorem CoversHills.hills_eq (h : c.CoversHills board board')
    (hcell : ∀ i ∈ c.cells, board'.cell? (c.place i) = (board.cell? i).map c.cell) :
    board'.hills = board.hills.map (Prod.map c.place c.color) := by
  have hcolor {i : Nat} (hi : i ∈ c.cells) :
      board'.hillColor? (c.place i) = (board.hillColor? i).map c.color := by
    rw [Board.hillColor?, hcell i hi, Board.hillColor?]
    cases board.cell? i with
    | none => rfl
    | some cell => exact c.hillColor?_terrain cell.terrain
  have hsorted : (board.hills.map (Prod.map c.place c.color)).Pairwise (·.1 < ·.1) := by
    refine List.pairwise_map.2 (board.pairwise_hills.imp_of_mem fun {a b} ha hb hab => ?_)
    exact h.strictMonoOn (h.mem (Board.mem_hills_iff.1 ha)) (h.mem (Board.mem_hills_iff.1 hb)) hab
  -- Both lists ascend, so it is enough that they have the same members.
  refine List.Pairwise.eq_of_mem_iff board'.pairwise_hills hsorted fun hill => ?_
  obtain ⟨k, color'⟩ := hill
  rw [Board.mem_hills_iff, List.mem_map]
  constructor
  · intro hk
    obtain ⟨i, hi, rfl⟩ := h.exists_mem hk
    rw [hcolor hi, Option.map_eq_some_iff] at hk
    obtain ⟨color, hown, rfl⟩ := hk
    exact ⟨(i, color), Board.mem_hills_iff.2 hown, rfl⟩
  · rintro ⟨⟨i, color⟩, hown, hsame⟩
    obtain ⟨rfl, rfl⟩ := Prod.mk.inj hsame
    rw [Board.mem_hills_iff] at hown
    rw [hcolor (h.mem hown), hown, Option.map_some]

/-- On boards where nobody stands games start alike. -/
theorem CoversHills.alike_start (h : c.CoversHills board board') (hvacant : board.Vacant)
    (hvacant' : board'.Vacant)
    (hcell : ∀ i ∈ c.cells, board'.cell? (c.place i) = (board.cell? i).map c.cell)
    (haside : c.Aside rng {} rng' {}) :
    c.Alike (.start redBrain blackBrain board rng) (.start redBrain' blackBrain' board' rng') := by
  have hant? (id : Nat) : (Game.start redBrain' blackBrain' board' rng').ant? id =
      ((Game.start redBrain blackBrain board rng).ant? id).map c.ant := by
    rw [Game.ant?_start, h.hills_eq hcell, List.getElem?_map, Game.ant?_start, Option.map_map,
      Option.map_map]
    rfl
  refine ⟨fun _ => hant? _, fun {i} hi => ?_, haside⟩
  have hagrees : (Game.start redBrain blackBrain board rng).Agrees := Game.agrees_start hvacant
  have hagrees' : (Game.start redBrain' blackBrain' board' rng').Agrees :=
    Game.agrees_start hvacant'
  -- Food and markers are what they were, and the ants decide who stands where.
  have hleft := Game.cell?_start_removeAnt redBrain blackBrain board rng i
  have hright := Game.cell?_start_removeAnt redBrain' blackBrain' board' rng' (c.place i)
  rw [hcell i hi] at hright
  cases hstarted : (Game.start redBrain blackBrain board rng).board.cell? i with
  | none =>
    rw [hstarted, Option.map_none, eq_comm, Option.map_eq_none_iff] at hleft
    rw [hleft, Option.map_none, Option.map_none, Option.map_eq_none_iff] at hright
    rw [hright, Option.map_none]
  | some own =>
    rw [hstarted, Option.map_some, eq_comm, Option.map_eq_some_iff] at hleft
    obtain ⟨cell, hfound, hsame⟩ := hleft
    rw [hfound, Option.map_some, Option.map_some, Option.map_eq_some_iff] at hright
    obtain ⟨own', hstarted', hsame'⟩ := hright
    have hname : own'.ant = own.ant := by
      refine Option.ext fun id => ?_
      rw [hagrees'.occupant_iff hstarted', hagrees.occupant_iff hstarted]
      constructor
      · rintro ⟨ant', hant', halive, hpos⟩
        obtain ⟨ant, hant, rfl⟩ := Option.map_eq_some_iff.1 ((hant? id).symm.trans hant')
        have hhill := h.mem (Game.hill_of_start hant)
        exact ⟨ant, hant, halive, h.strictMonoOn.injOn hhill hi hpos⟩
      · rintro ⟨ant, hant, halive, hpos⟩
        refine ⟨c.ant ant, ?_, halive, congrArg c.place hpos⟩
        exact (hant? id).trans (Option.map_eq_some_iff.2 ⟨ant, hant, rfl⟩)
    have hremoved : own'.removeAnt = (c.cell own).removeAnt := by
      rw [hsame', c.cell_removeAnt, hsame, c.cell_removeAnt]
    rw [hstarted', Option.map_some, Cell.eq_of_removeAnt hremoved hname]

theorem CoversHills.hillFood_eq (h : c.CoversHills game.board game'.board)
    (halike : c.Alike game game') (color : Color) :
    game'.hillFood (c.color color) = game.hillFood color := by
  have hcells : game'.board.hillCells (c.color color) =
      (game.board.hillCells color).map c.place := by
    rw [Board.hillCells_eq, h.hills_eq fun i hi => halike.cell?_eq hi, List.filter_map,
      List.map_map, Board.hillCells_eq, List.map_map]
    simp only [Function.comp_def, Prod.map_fst, Prod.map_snd, c.color_injective.eq_iff]
  rw [Game.hillFood, hcells, List.foldl_map, Game.hillFood]
  refine List.foldl_ext _ _ _ fun sum i hi => ?_
  rw [halike.cell?_eq (h.mem (Board.mem_hillCells_iff.1 hi))]
  cases game.board.cell? i <;> rfl

/-- If all ants are looked at, the colonies have the same scores. -/
theorem CoversHills.teamScore_eq (h : c.CoversHills game.board game'.board)
    (halike : c.Alike game game') (hants : ∀ id, id ∈ c.ants) (color : Color) :
    game'.teamScore (c.color color) = game.teamScore color := by
  have hdead (ant : Ant) : (!(c.ant ant).alive && (c.ant ant).color = c.color color) =
      (!ant.alive && ant.color = color : Bool) := by
    have hcolor : (c.ant ant).color = c.color color ↔ ant.color = color :=
      c.color_injective.eq_iff
    simp only [hcolor]
    rfl
  rw [Game.teamScore, h.hillFood_eq halike, Game.deaths, halike.ants_eq hants, Array.countP_map,
    Game.teamScore, Game.deaths]
  simp only [Function.comp_def, hdead]

end Comparison

end Formicary
