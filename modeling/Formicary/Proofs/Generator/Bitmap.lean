import Formicary.Proofs.Generator.Canvas
import Mathlib.Data.Nat.Bitwise

/-!
# Canvases as bits

Whether a stamp can be put down on a canvas is a question of which cells are free, and which of
them are wet, so for a sketch two numbers are enough, with a bit for every cell (`Bitmap`). All that
is done with a canvas in the course of a sketch is done with these numbers in the same way, and the
numbers show the canvas throughout (`Bitmap.Shows`).

On bits a whole sketch is worked out quickly, where the paint of all cells would have to be copied
for every cell that is painted.
-/

namespace Formicary

/-- The free cells of a canvas and the wet ones, each set as the bits of a number. -/
structure Bitmap extends Frame where
  /-- The cells on which a stamp may be put down. -/
  free : Nat
  /-- The cells with wet rock. -/
  wet : Nat

namespace Bitmap

/-! ### Single bits -/

/-- Write one bit of a number. -/
def write (n i : Nat) (bit : Bool) : Nat :=
  if bit then n ||| 1 <<< i else (n ||| 1 <<< i) ^^^ 1 <<< i

theorem testBit_write (n i j : Nat) (bit : Bool) :
    (write n i bit).testBit j = if i = j then bit else n.testBit j := by
  have hone : (1 <<< i).testBit j = decide (i = j) := by
    rw [Nat.one_shiftLeft, Nat.testBit_two_pow]
  cases bit <;> by_cases hij : i = j <;> simp [write, hone, hij]

/-- Clear ground in some rows below the first, but for the first and the last column. -/
def lawn (width : Nat) : Nat → Nat
  | 0 => 0
  | rows + 1 => lawn width rows ||| (2 ^ (width - 2) - 1) <<< ((rows + 1) * width + 1)

theorem testBit_lawn (width rows i : Nat) : (lawn width rows).testBit i = true ↔
    ∃ row, 1 ≤ row ∧ row ≤ rows ∧ row * width + 1 ≤ i ∧ i < row * width + 1 + (width - 2) := by
  induction rows with
  | zero =>
    simp only [lawn, Nat.zero_testBit, Bool.false_eq_true, false_iff]
    rintro ⟨row, hpos, hle, -⟩
    omega
  | succ rows ih =>
    -- The last of the rows is the one that has been added.
    rw [lawn, Nat.testBit_or, Bool.or_eq_true, ih, Nat.testBit_shiftLeft, Bool.and_eq_true,
      Nat.testBit_two_pow_sub_one, decide_eq_true_eq, decide_eq_true_eq]
    constructor
    · rintro (⟨row, hpos, hle, hfrom, hto⟩ | ⟨hfrom, hto⟩)
      · exact ⟨row, hpos, by omega, hfrom, hto⟩
      · exact ⟨rows + 1, by omega, by omega, hfrom, by omega⟩
    · rintro ⟨row, hpos, hle, hfrom, hto⟩
      rcases Nat.lt_or_eq_of_le hle with hlt | rfl
      · exact .inl ⟨row, hpos, by omega, hfrom, hto⟩
      · exact .inr ⟨hfrom, by omega⟩

/-! ### What is done with a canvas -/

/-- Clear ground inside an edge of rock. -/
def walled (width height : Nat) : Bitmap :=
  { width, height, free := lawn width (height - 2), wet := 0 }

/-- Whether a stamp lies inside the canvas when its corner is put on a cell. -/
def hasRoom (bitmap : Bitmap) (stamp : Stamp) (corner : Hex) : Bool :=
  Canvas.hasRoom ⟨bitmap.toFrame, #[]⟩ stamp corner

/-- Whether every place of a stamp that matters lands on free ground. -/
def isFreeFor (bitmap : Bitmap) (stamp : Stamp) (corner : Hex) : Bool :=
  stamp.places.all fun (r, c, _) =>
    let (row, col) := Canvas.landing corner r c
    bitmap.free.testBit (row * bitmap.width + col)

/-- Paint one cell. -/
def paintCell (bitmap : Bitmap) (row col : Nat) (paint : Paint) : Bitmap :=
  let i := row * bitmap.width + col
  { bitmap with
    free := write bitmap.free i paint.isFree
    wet := write bitmap.wet i (paint = .wetRock) }

/-- Paint one place of a stamp, if it belongs to the body. -/
def paintPlace (corner : Hex) (paint : Paint) (bitmap : Bitmap)
    (place : Nat × Nat × StampPart) : Bitmap :=
  if place.2.2 = .body then
    let (row, col) := Canvas.landing corner place.1 place.2.1
    bitmap.paintCell row col paint
  else bitmap

/-- Put a stamp down with its corner on a cell, unless it leaves the canvas or something is in its
way. -/
def superimpose (bitmap : Bitmap) (stamp : Stamp) (corner : Hex) (paint : Paint) :
    Option Bitmap :=
  if bitmap.hasRoom stamp corner && bitmap.isFreeFor stamp corner then
    some (stamp.places.foldl (paintPlace corner paint) bitmap)
  else none

/-- Let wet rock dry. -/
def dry (bitmap : Bitmap) : Bitmap :=
  { bitmap with free := bitmap.free ^^^ bitmap.wet, wet := 0 }

/-! ### Bits of a canvas -/

/-- The bits are those of a canvas. -/
structure Shows (bitmap : Bitmap) (canvas : Canvas) : Prop where
  /-- The extent is that of the canvas. -/
  frame_eq : bitmap.toFrame = canvas.toFrame
  /-- The bits of free cells are set. -/
  free_eq : ∀ i, bitmap.free.testBit i = (canvas.cells.getD i (.dry .rock)).isFree
  /-- The bits of wet cells are set. -/
  wet_eq : ∀ i, bitmap.wet.testBit i = decide (canvas.cells.getD i (.dry .rock) = .wetRock)

variable {bitmap : Bitmap} {canvas : Canvas} {stamp : Stamp} {corner : Hex} {paint : Paint}
  {row col : Nat}

theorem Shows.width_eq (h : bitmap.Shows canvas) : bitmap.width = canvas.width :=
  congrArg Frame.width h.frame_eq

/-- Only cells of the canvas are free. -/
theorem Shows.lt_size {i : Nat} (h : bitmap.Shows canvas) (hfree : bitmap.free.testBit i = true) :
    i < canvas.cells.size := by
  by_contra hge
  rw [h.free_eq, Array.getD, dif_neg hge] at hfree
  cases hfree

theorem Shows.paintCell (h : bitmap.Shows canvas)
    (hlt : row * canvas.width + col < canvas.cells.size) :
    (bitmap.paintCell row col paint).Shows (canvas.paintCell row col paint) := by
  have hcells : ∀ i, (canvas.paintCell row col paint).cells.getD i (.dry .rock) =
      if row * canvas.width + col = i then paint else canvas.cells.getD i (.dry .rock) := by
    intro i
    rw [Array.getD_eq_getD_getElem?, Array.getD_eq_getD_getElem?, Canvas.paintCell,
      Array.getElem?_setIfInBounds, if_pos hlt]
    split_ifs <;> rfl
  refine ⟨h.frame_eq, fun i => ?_, fun i => ?_⟩
  · rw [hcells, Bitmap.paintCell, h.width_eq]
    simp only [testBit_write, h.free_eq]
    split_ifs <;> rfl
  · rw [hcells, Bitmap.paintCell, h.width_eq]
    simp only [testBit_write, h.wet_eq]
    split_ifs <;> rfl

/-- Painting places of a stamp, all of which land inside the canvas, changes the bits as it changes
the canvas. -/
theorem Shows.paintPlaces {places : List (Nat × Nat × StampPart)} (h : bitmap.Shows canvas)
    (hlt : ∀ place ∈ places, (Canvas.landing corner place.1 place.2.1).1 * canvas.width +
      (Canvas.landing corner place.1 place.2.1).2 < canvas.cells.size) :
    (places.foldl (paintPlace corner paint) bitmap).Shows
      (places.foldl (Canvas.paintPlace corner paint) canvas) := by
  induction places generalizing bitmap canvas with
  | nil => exact h
  | cons place places ih =>
    obtain ⟨hfirst, hrest⟩ := List.forall_mem_cons.1 hlt
    rw [List.foldl_cons, List.foldl_cons, paintPlace, Canvas.paintPlace]
    split
    · refine ih (h.paintCell hfirst) fun place' hplace' => ?_
      -- The canvas has kept its shape.
      rw [Canvas.paintCell, Array.size_setIfInBounds]
      exact hrest place' hplace'
    · exact ih h hrest

/-- A stamp is put down on the bits just when it is put down on the canvas. -/
theorem Shows.superimpose (h : bitmap.Shows canvas) (stamp : Stamp) (corner : Hex)
    (paint : Paint) :
    Option.Rel Shows (bitmap.superimpose stamp corner paint)
      (canvas.superimpose stamp corner paint) := by
  have hroom : bitmap.hasRoom stamp corner = canvas.hasRoom stamp corner := by
    rw [hasRoom, h.frame_eq]
    rfl
  have hfree : bitmap.isFreeFor stamp corner = canvas.isFreeFor stamp corner := by
    simp only [isFreeFor, Canvas.isFreeFor, h.free_eq, h.width_eq, Canvas.paintAt]
  rw [Bitmap.superimpose, Canvas.superimpose, hroom]
  split_ifs with htest hcanvas hcanvas
  · refine .some (h.paintPlaces fun place hplace => ?_)
    -- What is free belongs to the canvas.
    have hplaceFree := List.all_eq_true.1 (Bool.and_eq_true_iff.1 htest).2 place hplace
    exact h.lt_size (h.width_eq ▸ hplaceFree)
  · exact absurd (hfree ▸ htest) hcanvas
  · exact absurd (hfree ▸ hcanvas) htest
  · exact .none

theorem Shows.dry (h : bitmap.Shows canvas) : bitmap.dry.Shows canvas.dry := by
  have hcells : ∀ i, canvas.dry.cells.getD i (.dry .rock) =
      (canvas.cells.getD i (.dry .rock)).dried := by
    intro i
    rw [Array.getD_eq_getD_getElem?, Array.getD_eq_getD_getElem?, Canvas.dry, Array.getElem?_map]
    cases canvas.cells[i]? <;> rfl
  refine ⟨h.frame_eq, fun i => ?_, fun i => ?_⟩
  · rw [hcells, Bitmap.dry, Nat.testBit_xor, h.free_eq, h.wet_eq]
    cases canvas.cells.getD i (.dry .rock) with
    | dry tile => simp [Paint.dried]
    | wetRock => rfl
  · rw [hcells, Bitmap.dry, Nat.zero_testBit]
    cases canvas.cells.getD i (.dry .rock) <;> rfl

/-- A cell of the lawn lies in a row and a column inside the edge. -/
theorem testBit_lawn_iff (width height i : Nat) :
    (lawn width (height - 2)).testBit i = true ↔ i < height * width ∧
      ¬(i / width = 0 ∨ i / width = height - 1 ∨ i % width = 0 ∨ i % width = width - 1) := by
  rw [testBit_lawn]
  constructor
  · rintro ⟨row, hpos, hle, hfrom, hto⟩
    obtain ⟨col, rfl⟩ := Nat.exists_eq_add_of_le (Nat.le_of_succ_le hfrom)
    have hcol : col < width := by omega
    have hrow : (row + 1) * width ≤ height * width := Nat.mul_le_mul_right width (by omega)
    have hdiv : (row * width + col) / width = row := by
      rw [Nat.mul_comm, Nat.mul_add_div (by omega), Nat.div_eq_of_lt hcol, Nat.add_zero]
    have hmod : (row * width + col) % width = col := Nat.mul_add_mod_of_lt hcol
    rw [Nat.succ_mul] at hrow
    rw [hdiv, hmod]
    omega
  · rintro ⟨hlt, hinside⟩
    have hwidth : 0 < width := Nat.pos_of_mul_pos_left (Nat.zero_lt_of_lt hlt)
    have hrow : i / width < height := Nat.div_lt_of_lt_mul (Nat.mul_comm width height ▸ hlt)
    have hcol : i % width < width := Nat.mod_lt i hwidth
    have hi : i / width * width + i % width = i := Nat.div_add_mod' i width
    refine ⟨i / width, ?_⟩
    generalize i / width = row at *
    generalize i % width = col at *
    omega

/-- Inside the edge of a walled canvas all cells are free. -/
theorem shows_walled (width height : Nat) :
    (walled width height).Shows (Canvas.walled width height) := by
  have hcells : ∀ i, (Canvas.walled width height).cells.getD i (.dry .rock) =
      if i < height * width ∧ ¬(i / width = 0 ∨ i / width = height - 1 ∨ i % width = 0 ∨
        i % width = width - 1) then .dry .clear else .dry .rock := by
    intro i
    rw [Array.getD_eq_getD_getElem?, Canvas.walled, Array.getElem?_ofFn]
    by_cases hi : i < height * width
    · rw [dif_pos hi]
      simp only [hi, true_and]
      split_ifs <;> rfl
    · rw [dif_neg hi, if_neg fun h => hi h.1]
      rfl
  refine ⟨rfl, fun i => ?_, fun i => ?_⟩
  · rw [hcells, walled, Bool.eq_iff_iff, testBit_lawn_iff]
    split_ifs with hinside
    · exact iff_of_true hinside rfl
    · exact iff_of_false hinside nofun
  · rw [hcells, walled, Nat.zero_testBit]
    split_ifs <;> rfl

end Bitmap

end Formicary
