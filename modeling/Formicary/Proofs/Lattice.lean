import Formicary.Frame
import Mathlib.Data.Prod.Basic
import Mathlib.Algebra.Group.Prod
import Mathlib.Algebra.Group.Int.Defs

/-!
# The hexagonal lattice

In offset coordinates a diagonal step depends on the parity of the row it starts from. In the
slanted coordinates of `Hex.slant` every direction adds one fixed vector, `Direction.vector`, to
every cell (`slant_step`), and cells are told apart by them (`slant_injective`). The laws of
walking follow from sums of vectors: going back (`opposite_step`), and the way round one corner
(`left_left_step`, `right_right_step`), which says that two neighbours have a third cell next to
both of them on each side.
-/

namespace Formicary

namespace Hex

/-- Coordinates in which all steps of one direction are alike: the column, moved back by half a
column for every row, and the row. -/
def slant (h : Hex) : Int × Int := (h.col - h.row / 2, h.row)

theorem slant_injective : Function.Injective slant := by
  rintro ⟨row, col⟩ ⟨row', col'⟩ h
  simp only [slant, Prod.mk.injEq] at h
  obtain ⟨hcol, rfl⟩ := h
  rw [Hex.mk.injEq]
  omega

/-- Move a cell by a vector of slanted coordinates. -/
def move (h : Hex) (v : Int × Int) : Hex :=
  ⟨h.row + v.2, h.col + v.1 + ((h.row + v.2) / 2 - h.row / 2)⟩

/-- In slanted coordinates a move is a sum. -/
theorem slant_move (h : Hex) (v : Int × Int) : (h.move v).slant = h.slant + v := by
  refine Prod.ext ?_ rfl
  simp only [slant, move, Prod.fst_add]
  omega

/-- Different vectors move a cell to different cells. -/
theorem move_injective (h : Hex) : Function.Injective h.move := by
  intro v w hmove
  have hslant := congrArg slant hmove
  rw [slant_move, slant_move] at hslant
  exact add_left_cancel hslant

end Hex

namespace Direction

/-- What a step adds to the slanted coordinates. -/
def vector : Direction → Int × Int
  | east => (1, 0)
  | southEast => (0, 1)
  | southWest => (-1, 1)
  | west => (-1, 0)
  | northWest => (0, -1)
  | northEast => (1, -1)

/-- Every step adds the vector of its direction. -/
theorem slant_step (d : Direction) (h : Hex) : (d.step h).slant = h.slant + d.vector := by
  have hrow := Int.emod_two_eq h.row
  cases d <;>
    refine Prod.ext ?_ ?_ <;>
    simp only [step, offset, Hex.slant, vector, Prod.fst_add, Prod.snd_add] <;>
    omega

theorem vector_opposite (d : Direction) : d.vector + d.opposite.vector = (0, 0) := by
  cases d <;> rfl

theorem vector_left_left (d : Direction) : d.vector + d.left.left.vector = d.left.vector := by
  cases d <;> rfl

theorem vector_right_right (d : Direction) : d.vector + d.right.right.vector = d.right.vector := by
  cases d <;> rfl

/-- A step after a move is a move by one vector more. -/
theorem step_move (d : Direction) (h : Hex) (v : Int × Int) :
    d.step (h.move v) = h.move (v + d.vector) := by
  apply Hex.slant_injective
  rw [slant_step, Hex.slant_move, Hex.slant_move, add_assoc]

/-- A step and a move can be exchanged. -/
theorem move_step (d : Direction) (h : Hex) (v : Int × Int) :
    (d.step h).move v = d.step (h.move v) := by
  apply Hex.slant_injective
  rw [Hex.slant_move, slant_step, slant_step, Hex.slant_move, add_right_comm]

/-- A step back undoes a step. -/
@[simp]
theorem opposite_step (d : Direction) (h : Hex) : d.opposite.step (d.step h) = h := by
  apply Hex.slant_injective
  rw [slant_step, slant_step, add_assoc, vector_opposite, Prod.mk_zero_zero, add_zero]

/-- A step and a step two turns to the left of it make one step to the left. -/
theorem left_left_step (d : Direction) (h : Hex) :
    d.left.left.step (d.step h) = d.left.step h := by
  apply Hex.slant_injective
  rw [slant_step, slant_step, slant_step, add_assoc, vector_left_left]

/-- A step and a step two turns to the right of it make one step to the right. -/
theorem right_right_step (d : Direction) (h : Hex) :
    d.right.right.step (d.step h) = d.right.step h := by
  apply Hex.slant_injective
  rw [slant_step, slant_step, slant_step, add_assoc, vector_right_right]

/-- Different directions lead to different cells. -/
theorem step_injective (h : Hex) : Function.Injective fun d : Direction => d.step h := by
  intro d d' hstep
  have hvector : d.vector = d'.vector := by
    have hslant := congrArg Hex.slant hstep
    rw [slant_step, slant_step] at hslant
    exact add_left_cancel hslant
  revert hvector
  cases d <;> cases d' <;> decide

/-- No step leads nowhere. -/
theorem step_ne_self (d : Direction) (h : Hex) : d.step h ≠ h := by
  intro hstep
  have hslant := congrArg Hex.slant hstep
  rw [slant_step, add_eq_left] at hslant
  revert hslant
  cases d <;> decide

/-- The cells on the two sides of a step are reached by different steps from its end. -/
theorem left_left_ne_right_right (d : Direction) : d.left.left ≠ d.right.right := by
  cases d <;> decide

end Direction

end Formicary
