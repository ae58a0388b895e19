import Formicary.Proofs.Board.Layout
import Formicary.Proofs.Lattice
import Mathlib.Data.Set.Basic

/-!
# Links between cells

The laws of walking on the lattice, for the links of a wired board. A link leads to a cell whose
link back leads to the first one (`Wired.neighbor?_opposite`). From a neighbour, the cells next to
both are found two turns away from the direction of the link (`Wired.neighbor?_left_left`,
`Wired.neighbor?_right_right`); where the board ends on one way round, it ends on the other.

`Board.Joined` says how far apart two cells are: it allows for chains of a number of links.
-/

namespace Formicary.Board.Wired

variable {board : Board} {i j : Nat} {d : Direction}

/-- The cell at the end of a link is where the lattice says. -/
theorem hex_of_neighbor? (hwired : board.Wired) (h : board.neighbor? i d = some j) :
    board.hex j = d.step (board.hex i) :=
  Frame.hex_of_index? (hwired.neighbor?_eq_some_iff.1 h).2

theorem lt_of_neighbor? (hwired : board.Wired) (h : board.neighbor? i d = some j) :
    j < board.height * board.width :=
  Frame.lt_of_index? (hwired.neighbor?_eq_some_iff.1 h).2

/-- Every link can be followed back. -/
theorem neighbor?_opposite (hwired : board.Wired) (h : board.neighbor? i d = some j) :
    board.neighbor? j d.opposite = some i := by
  have hi := (hwired.neighbor?_eq_some_iff.1 h).1
  rw [hwired.neighbor?_eq_some_iff, hwired.hex_of_neighbor? h, Direction.opposite_step]
  exact ⟨hwired.lt_of_neighbor? h, Frame.index?_hex hi⟩

/-- No cell is linked to itself. -/
theorem ne_of_neighbor? (hwired : board.Wired) (h : board.neighbor? i d = some j) : i ≠ j := by
  rintro rfl
  exact d.step_ne_self (board.hex i) (hwired.hex_of_neighbor? h).symm

/-- Links in different directions lead to different cells. -/
theorem eq_of_neighbor? {d' : Direction} (hwired : board.Wired)
    (h : board.neighbor? i d = some j) (h' : board.neighbor? i d' = some j) : d = d' :=
  Direction.step_injective (board.hex i)
    ((hwired.hex_of_neighbor? h).symm.trans (hwired.hex_of_neighbor? h'))

/-- Two steps that add up to a third lead to the same cell as it, or off the board as it does. -/
theorem neighbor?_trans {d' d'' : Direction} (hwired : board.Wired)
    (hstep : ∀ h, d'.step (d.step h) = d''.step h) (h : board.neighbor? i d = some j) :
    board.neighbor? j d' = board.neighbor? i d'' := by
  have hi := (hwired.neighbor?_eq_some_iff.1 h).1
  have hj := hwired.lt_of_neighbor? h
  ext k
  rw [hwired.neighbor?_eq_some_iff, hwired.neighbor?_eq_some_iff, hwired.hex_of_neighbor? h, hstep]
  simp only [hi, hj]

theorem neighbor?_left_left (hwired : board.Wired) (h : board.neighbor? i d = some j) :
    board.neighbor? j d.left.left = board.neighbor? i d.left :=
  hwired.neighbor?_trans d.left_left_step h

theorem neighbor?_right_right (hwired : board.Wired) (h : board.neighbor? i d = some j) :
    board.neighbor? j d.right.right = board.neighbor? i d.right :=
  hwired.neighbor?_trans d.right_right_step h

end Formicary.Board.Wired

namespace Formicary.Board

/-! ### Chains of links -/

/-- Some chain of at most so many links leads from one cell to the other. -/
def Joined (board : Board) : Nat → Nat → Nat → Prop
  | 0, i, j => i = j
  | n + 1, i, j => i = j ∨ ∃ d k, board.neighbor? i d = some k ∧ board.Joined n k j

instance decidableJoined (board : Board) : ∀ n i j, Decidable (board.Joined n i j)
  | 0, i, j => inferInstanceAs (Decidable (i = j))
  | n + 1, i, j =>
    have := decidableJoined board n
    decidable_of_iff
      (i = j ∨ ∃ d ∈ Direction.all, ∃ k ∈ board.neighbor? i d, board.Joined n k j) (by
        simp only [Joined, Direction.mem_all, Option.mem_def, true_and])

/-- The cells within so many links of a cell. -/
def around (board : Board) (n i : Nat) : Set Nat := {j | board.Joined n i j}

variable {board board' : Board} {i j k m n : Nat} {d : Direction}

@[simp]
theorem joined_self (board : Board) (n i : Nat) : board.Joined n i i := by
  cases n with
  | zero => rfl
  | succ n => exact .inl rfl

theorem joined_of_neighbor? (h : board.neighbor? i d = some j) : board.Joined 1 i j :=
  .inr ⟨d, j, h, rfl⟩

/-- A chain of fewer links is a chain of at most more. -/
theorem Joined.mono (h : board.Joined m i j) (hle : m ≤ n) : board.Joined n i j := by
  induction m generalizing i n with
  | zero =>
    obtain rfl : i = j := h
    exact joined_self board n i
  | succ m ih =>
    obtain ⟨n, rfl⟩ := Nat.exists_eq_add_of_le' (Nat.lt_of_lt_of_le m.succ_pos hle)
    rcases h with rfl | ⟨d, k, hlink, h⟩
    · exact joined_self ..
    · exact .inr ⟨d, k, hlink, ih h (Nat.le_of_succ_le_succ hle)⟩

/-- Chains can be put together. -/
theorem Joined.trans (h : board.Joined m i j) (h' : board.Joined n j k) :
    board.Joined (m + n) i k := by
  induction m generalizing i with
  | zero =>
    obtain rfl : i = j := h
    rwa [Nat.zero_add]
  | succ m ih =>
    rcases h with rfl | ⟨d, l, hlink, h⟩
    · exact h'.mono (Nat.le_add_left ..)
    · rw [Nat.succ_add]
      exact .inr ⟨d, l, hlink, ih h⟩

/-- Chains can be followed back. -/
theorem Joined.symm (hwired : board.Wired) (h : board.Joined n i j) : board.Joined n j i := by
  induction n generalizing i with
  | zero => exact Eq.symm h
  | succ n ih =>
    rcases h with rfl | ⟨d, k, hlink, h⟩
    · exact joined_self ..
    · exact (ih h).trans (joined_of_neighbor? (hwired.neighbor?_opposite hlink))

theorem mem_around_self (board : Board) (n i : Nat) : i ∈ board.around n i := joined_self ..

/-- The neighbours of cells around a cell are one link farther away at most. -/
theorem mem_around_succ (hj : j ∈ board.around n i) (h : board.neighbor? j d = some k) :
    k ∈ board.around (n + 1) i := hj.trans (joined_of_neighbor? h)

theorem around_mono (hle : m ≤ n) (i : Nat) : board.around m i ⊆ board.around n i :=
  fun _ h => h.mono hle

/-- Around cells that are not joined by a chain of enough links there are no common cells. -/
theorem around_subset_compl (hwired : board.Wired) (h : ¬board.Joined (m + n) i j) :
    board.around m i ⊆ (board.around n j)ᶜ := fun _ hi hj => h (hi.trans (hj.symm hwired))

/-- On one ground, the same cells are joined. -/
theorem joined_eq_of_ground (h : board'.ground = board.ground) : board'.Joined = board.Joined := by
  funext n
  induction n with
  | zero => rfl
  | succ n ih =>
    funext i j
    simp only [Joined, neighbor?_eq_of_ground h, ih]

end Formicary.Board

namespace Formicary.Board.LaidOut

variable {board : Board} {world : WorldMap} {i j : Nat} {d : Direction}

/-- On a board made from a world, the cell at the end of a link is where the lattice says. -/
theorem hex_of_neighbor? (hlaid : board.LaidOut world) (h : board.neighbor? i d = some j) :
    world.hex j = d.step (world.hex i) := by
  rw [← hlaid.toFrame_eq]
  exact hlaid.wired.hex_of_neighbor? h

end Formicary.Board.LaidOut
