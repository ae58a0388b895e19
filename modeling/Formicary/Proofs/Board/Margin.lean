import Formicary.Proofs.Board.Layout
import Formicary.Proofs.Board.Transfer
import Mathlib.Data.List.Sort
import Mathlib.Order.Interval.Set.Defs

/-!
# Worlds in a margin of rock

A world gets a `Margin` of rock around it (`WorldMap.inRock`). Its cells then lie elsewhere and
have other numbers (`Margin.place`), but they come in the same order, and they have the neighbours
that they had, because the number of rows above is even: a row keeps its parity
(`Margin.step_shift`). What had no neighbour has rock for one.

So the board of the world in the margin is a transfer of the board of the world
(`Board.cell?_ofMap_inRock`), with nothing but rock around it (`Board.exists_place`).
-/

namespace Formicary

/-- How many rows and columns there are on each side of a world. -/
structure Margin where
  /-- The number of rows above. -/
  above : Nat
  /-- The number of rows below. -/
  below : Nat
  /-- The number of columns on the left. -/
  left : Nat
  /-- The number of columns on the right. -/
  right : Nat
  /-- Rows keep their parity. -/
  even_above : above % 2 = 0 := by decide

namespace Margin

variable (margin : Margin)

/-- Where a cell of the world lies in the margin. -/
def shift (h : Hex) : Hex := ⟨h.row + margin.above, h.col + margin.left⟩

/-- Where a cell in the margin lies in the world, or beyond its edge. -/
def unshift (h : Hex) : Hex := ⟨h.row - margin.above, h.col - margin.left⟩

/-- The frame around a frame. -/
def frame (inner : Frame) : Frame where
  width := margin.left + inner.width + margin.right
  height := margin.above + inner.height + margin.below

/-- The number that a cell has in the frame around its frame. -/
def place (inner : Frame) (i : Nat) : Nat :=
  (i / inner.width + margin.above) * (margin.frame inner).width +
    (i % inner.width + margin.left)

/-- What the cells of a frame are called in the frame around it. -/
def transfer (inner : Frame) : Transfer :=
  { Transfer.same with
    place := margin.place inner
    rows := margin.above
    cols := margin.left
    links := fun row col _ => .ofFn fun d =>
      (margin.frame inner).index? (d.step (margin.shift ⟨row, col⟩)) }

variable {inner : Frame} {h : Hex} {i : Nat}

@[simp]
theorem unshift_shift (h : Hex) : margin.unshift (margin.shift h) = h := by
  simp [shift, unshift]

@[simp]
theorem shift_unshift (h : Hex) : margin.shift (margin.unshift h) = h := by
  simp [shift, unshift]

/-- To step in the margin is to step in the world. -/
theorem step_shift (d : Direction) (h : Hex) :
    d.step (margin.shift h) = margin.shift (d.step h) := by
  have heven : (margin.above : Int) % 2 = 0 := by exact_mod_cast margin.even_above
  have hparity : (h.row + margin.above) % 2 = h.row % 2 := by omega
  simp only [Direction.step, shift]
  cases d <;> simp only [Direction.offset, hparity, Hex.mk.injEq] <;> omega

/-- A cell of the world has its place as its number in the margin. -/
theorem index?_shift (hi : inner.index? h = some i) :
    (margin.frame inner).index? (margin.shift h) = some (margin.place inner i) := by
  obtain ⟨⟨hrow₀, hrow, hcol₀, hcol⟩, -⟩ := Frame.index?_eq_some_iff.1 hi
  have hhex := Frame.hex_of_index? hi
  -- Row and column are the quotient and the remainder of the number.
  have hquotient : h.row.toNat = i / inner.width := by
    rw [← hhex, Frame.hex, Int.toNat_natCast]
  have hremainder : h.col.toNat = i % inner.width := by
    rw [← hhex, Frame.hex, Int.toNat_natCast]
  have hdown : (h.row + margin.above).toNat = i / inner.width + margin.above := by omega
  have haside : (h.col + margin.left).toNat = i % inner.width + margin.left := by omega
  refine Frame.index?_eq_some_iff.2 ⟨⟨?_, ?_, ?_, ?_⟩, ?_⟩ <;> simp only [shift, frame]
  · omega
  · omega
  · omega
  · omega
  · rw [hdown, haside, place, frame]

theorem hex_place (hi : i < inner.height * inner.width) :
    (margin.frame inner).hex (margin.place inner i) = margin.shift (inner.hex i) :=
  Frame.hex_of_index? (margin.index?_shift (Frame.index?_hex hi))

/-- The cells keep their order. -/
theorem strictMonoOn_place (inner : Frame) :
    StrictMonoOn (margin.place inner) (Set.Iio (inner.height * inner.width)) := by
  intro i hi j hj hij
  have hpos : 0 < inner.width := Nat.pos_of_ne_zero fun hzero => by simp [hzero] at hi
  have hcol : i % inner.width + margin.left < (margin.frame inner).width := by
    have hlt := Nat.mod_lt i hpos
    simp only [frame]
    omega
  rcases Nat.lt_or_eq_of_le (Nat.div_le_div_right (c := inner.width) hij.le) with hrow | hrow
  · -- A cell of an earlier row comes before all of the next row.
    have hnext : (i / inner.width + margin.above + 1) * (margin.frame inner).width ≤
        (j / inner.width + margin.above) * (margin.frame inner).width :=
      Nat.mul_le_mul_right _ (by omega)
    rw [Nat.succ_mul] at hnext
    simp only [place]
    omega
  · -- In one row the columns are in the order of the numbers.
    have hi' := Nat.div_add_mod i inner.width
    have hj' := Nat.div_add_mod j inner.width
    rw [← hrow] at hj'
    simp only [place, ← hrow]
    omega

end Margin

/-- A world with a margin of rock around it. -/
def WorldMap.inRock (world : WorldMap) (margin : Margin) : WorldMap :=
  let outer := margin.frame world.toFrame
  { outer with
    tiles := (Array.range (outer.height * outer.width)).map fun k =>
      (world.tile? (margin.unshift (outer.hex k))).getD .rock }

/-- A hill cell in a margin of two rows above and one row or column on the other sides. -/
example : (WorldMap.inRock ⟨⟨1, 1⟩, #[.hill .red]⟩
    { above := 2, below := 1, left := 1, right := 1 }).tiles =
      #[.rock, .rock, .rock,
        .rock, .rock, .rock,
        .rock, .hill .red, .rock,
        .rock, .rock, .rock] := by
  decide +kernel

namespace Board

variable {board board' : Board} {world : WorldMap} {margin : Margin} {i k : Nat}

theorem toFrame_inRock (world : WorldMap) (margin : Margin) :
    (world.inRock margin).toFrame = margin.frame world.toFrame := rfl

/-- A tile in the margin is what lies there of the world, and rock beyond. -/
theorem tiles_inRock (hk : k < (world.inRock margin).height * (world.inRock margin).width) :
    (world.inRock margin).tiles.getD k .rock =
      (world.tile? (margin.unshift ((world.inRock margin).hex k))).getD .rock := by
  have hk' : k < (margin.frame world.toFrame).height * (margin.frame world.toFrame).width := hk
  simp only [WorldMap.inRock, Array.getD_eq_getD_getElem?, Array.getElem?_map,
    Array.getElem?_range, if_pos hk', Option.map_some, Option.getD_some]

theorem lt_place (hi : i < world.height * world.width) :
    margin.place world.toFrame i <
      (world.inRock margin).height * (world.inRock margin).width := by
  have hindex := margin.index?_shift (Frame.index?_hex hi)
  exact Frame.lt_of_index? hindex

/-- Every tile of the world is found at its place in the margin. -/
theorem tiles_inRock_place (hi : i < world.height * world.width) :
    (world.inRock margin).tiles.getD (margin.place world.toFrame i) .rock =
      world.tiles.getD i .rock := by
  have hhex : (world.inRock margin).hex (margin.place world.toFrame i) =
      margin.shift (world.hex i) := margin.hex_place hi
  rw [tiles_inRock (lt_place hi), hhex, Margin.unshift_shift, WorldMap.tile?,
    Frame.index?_hex hi, Array.getD_eq_getD_getElem?]

/-- Whatever is not rock in the margin has its place there. -/
theorem exists_place (hk : k < (world.inRock margin).height * (world.inRock margin).width)
    (htile : (world.inRock margin).tiles.getD k .rock ≠ .rock) :
    ∃ i < world.height * world.width, margin.place world.toFrame i = k := by
  rw [tiles_inRock hk, WorldMap.tile?] at htile
  split at htile
  next i hi =>
    have hhex := Margin.index?_shift margin hi
    rw [Margin.shift_unshift] at hhex
    have hindex : (world.inRock margin).index? ((world.inRock margin).hex k) = some k :=
      Frame.index?_hex hk
    exact ⟨i, Frame.lt_of_index? hi, Option.some.inj (hhex.symm.trans hindex)⟩
  next => exact absurd rfl htile

/-- Beyond the edge of the world there is rock in the margin. -/
theorem tiles_inRock_of_index? {h : Hex} (hout : world.index? h = none)
    (hk : (world.inRock margin).index? (margin.shift h) = some k) :
    (world.inRock margin).tiles.getD k .rock = .rock := by
  by_contra htile
  -- Anything else would be a cell of the world, and then the world had not ended before.
  obtain ⟨i, hi, rfl⟩ := exists_place (Frame.lt_of_index? hk) htile
  have hhex : (world.inRock margin).hex (margin.place world.toFrame i) =
      margin.shift (world.hex i) := margin.hex_place hi
  have hsame : h = world.hex i := by
    rw [← margin.unshift_shift h, ← Frame.hex_of_index? hk, hhex, margin.unshift_shift]
  rw [hsame, Frame.index?_hex hi] at hout
  cases hout

/-- At its place in the margin is every cell of the board. -/
theorem cell?_ofMap_inRock (hi : i < world.height * world.width) :
    (ofMap (world.inRock margin)).cell? (margin.place world.toFrame i) =
      ((ofMap world).cell? i).map (margin.transfer world.toFrame).cell := by
  have hhex : (world.inRock margin).hex (margin.place world.toFrame i) =
      margin.shift (world.hex i) := margin.hex_place hi
  have hrow : (margin.shift (world.hex i)).row.toNat =
      (world.hex i).row.toNat + margin.above := rfl
  have hcol : (margin.shift (world.hex i)).col.toNat =
      (world.hex i).col.toNat + margin.left := rfl
  have htile : (world.inRock margin).tileAt (margin.shift (world.hex i)).row.toNat
      (margin.shift (world.hex i)).col.toNat =
        world.tileAt (world.hex i).row.toNat (world.hex i).col.toNat := by
    rw [← hhex, WorldMap.tileAt_hex, tiles_inRock_place hi, WorldMap.tileAt_hex]
  rw [cell?_ofMap, if_pos (lt_place hi), cell?_ofMap, if_pos hi, Option.map_some]
  refine congrArg some ?_
  simp only [layCell, hhex, htile]
  simp only [hrow, hcol]
  cases world.tileAt (world.hex i).row.toNat (world.hex i).col.toNat <;> rfl

end Board

end Formicary
