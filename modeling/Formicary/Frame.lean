import Formicary.Direction

/-!
# Frames

A frame is a rectangle of the hexagonal lattice with its upper left corner at the origin. Its
cells are numbered row by row. `Frame.index?` and `Frame.hex` go from a cell to its number and
back, and each undoes the other (`hex_of_index?`, `index?_hex`).
-/

namespace Formicary

/-- The extent of a rectangular grid. -/
structure Frame where
  /-- The number of columns. -/
  width : Nat
  /-- The number of rows. -/
  height : Nat
  deriving DecidableEq

namespace Frame

/-- Whether a cell of the lattice lies inside the frame. -/
def Contains (frame : Frame) (h : Hex) : Prop :=
  0 ≤ h.row ∧ h.row < frame.height ∧ 0 ≤ h.col ∧ h.col < frame.width

instance (frame : Frame) (h : Hex) : Decidable (frame.Contains h) := by
  unfold Contains
  infer_instance

/-- The number of a cell, or nothing if the cell lies outside. -/
def index? (frame : Frame) (h : Hex) : Option Nat :=
  if frame.Contains h then some (h.row.toNat * frame.width + h.col.toNat) else none

/-- The cell with a given number. -/
def hex (frame : Frame) (i : Nat) : Hex := ⟨(i / frame.width : Nat), (i % frame.width : Nat)⟩

variable {frame : Frame} {h : Hex} {i : Nat}

/-- A number is given to the cells inside the frame only. -/
theorem index?_eq_some_iff :
    frame.index? h = some i ↔
      frame.Contains h ∧ h.row.toNat * frame.width + h.col.toNat = i := by
  rw [index?]
  split <;> simp_all

/-- The cells inside the frame are numbered below their count. -/
theorem lt_of_index? (hi : frame.index? h = some i) : i < frame.height * frame.width := by
  obtain ⟨⟨hrow₀, hrow, hcol₀, hcol⟩, rfl⟩ := index?_eq_some_iff.1 hi
  have hle : (h.row.toNat + 1) * frame.width ≤ frame.height * frame.width :=
    Nat.mul_le_mul_right _ (by omega)
  rw [Nat.succ_mul] at hle
  omega

/-- The cell with the number of a cell is that cell. -/
theorem hex_of_index? (hi : frame.index? h = some i) : frame.hex i = h := by
  obtain ⟨⟨hrow₀, hrow, hcol₀, hcol⟩, rfl⟩ := index?_eq_some_iff.1 hi
  have hlt : h.col.toNat < frame.width := by omega
  have hdiv : (h.row.toNat * frame.width + h.col.toNat) / frame.width = h.row.toNat := by
    rw [Nat.mul_comm, Nat.mul_add_div (by omega), Nat.div_eq_of_lt hlt, Nat.add_zero]
  have hmod : (h.row.toNat * frame.width + h.col.toNat) % frame.width = h.col.toNat := by
    rw [Nat.mul_comm, Nat.mul_add_mod, Nat.mod_eq_of_lt hlt]
  simp only [hex, hdiv, hmod, Int.toNat_of_nonneg hrow₀, Int.toNat_of_nonneg hcol₀]

/-- The number of the cell with a number is that number. -/
theorem index?_hex (hi : i < frame.height * frame.width) : frame.index? (frame.hex i) = some i := by
  have hpos : 0 < frame.width := Nat.pos_of_ne_zero fun hzero => by simp [hzero] at hi
  have hrow : i / frame.width < frame.height := Nat.div_lt_of_lt_mul (by rwa [Nat.mul_comm])
  have hcol : i % frame.width < frame.width := Nat.mod_lt _ hpos
  refine index?_eq_some_iff.2 ⟨⟨?_, Int.ofNat_lt.2 hrow, ?_, Int.ofNat_lt.2 hcol⟩, ?_⟩
  · exact Int.natCast_nonneg _
  · exact Int.natCast_nonneg _
  · -- Quotient and remainder give the number back.
    rw [hex, Int.toNat_natCast, Int.toNat_natCast, Nat.mul_comm, Nat.div_add_mod]

end Frame

end Formicary
