import Formicary.Proofs.Region.Distance
import Mathlib.Algebra.BigOperators.Group.List.Basic

/-!
# Walks

In offset coordinates the lattice looks irregular: where a diagonal step leads depends on the
parity of the row that it starts from, so every row of a walk has a say in all later columns. In
slanted coordinates a walk is a sum of vectors, and a sum does not depend on the order of what is
added up. All that counts is how often a walk takes each direction.

* `Hex.slant_walk`: a walk adds the vector of each direction as often as it takes it;
* `Hex.walk_eq_of_perm`: the order of the steps makes no difference;
* `Hex.walk_opposites`: the opposite steps lead back, in whatever order they are taken;
* `Hex.walk_lattice` says this for all cells, on negative rows and columns too.
-/

namespace Formicary

namespace Direction

/-- Opposite directions have opposite vectors. -/
theorem opposite_vector (d : Direction) : d.opposite.vector = -d.vector :=
  (neg_eq_of_add_eq_zero_right d.vector_opposite).symm

end Direction

namespace Hex

variable {ds es : List Direction}

/-- Each vector is added up as often as its direction is listed. -/
theorem sum_vector_eq (ds : List Direction) : (ds.map Direction.vector).sum =
    (Direction.all.map fun d => ds.count d • d.vector).sum := by
  induction ds with
  | nil => rfl
  | cons d ds ih =>
    -- One more direction adds its vector to one of the six summands.
    have hcount : ∀ d', (d :: ds).count d' • d'.vector =
        ds.count d' • d'.vector + if d = d' then d'.vector else 0 := by
      intro d'
      rw [List.count_cons, add_nsmul]
      by_cases hd : d = d'
      · rw [if_pos hd, if_pos (beq_iff_eq.2 hd), one_nsmul]
      · rw [if_neg hd, if_neg (beq_iff_eq.not.2 hd), zero_nsmul]
    have hone : (Direction.all.map fun d' => if d = d' then d'.vector else 0).sum = d.vector := by
      cases d <;> rfl
    rw [List.map_cons, List.sum_cons, ih, List.map_congr_left fun d' _ => hcount d',
      List.sum_map_add, hone, add_comm]

/-- In slanted coordinates a walk adds the vector of each direction as often as it takes it. -/
theorem slant_walk (h : Hex) (ds : List Direction) : (h.walk ds).slant =
    h.slant + (Direction.all.map fun d => ds.count d • d.vector).sum := by
  rw [walk_eq_move, slant_move, sum_vector_eq]

/-- The order of the steps of a walk makes no difference. -/
theorem walk_eq_of_perm (hperm : ds.Perm es) (h : Hex) : h.walk ds = h.walk es := by
  rw [walk_eq_move, walk_eq_move, (hperm.map Direction.vector).sum_eq]

/-- The vectors of the opposite steps add up to the opposite vector. -/
theorem sum_vector_opposite (ds : List Direction) :
    ((ds.map Direction.opposite).map Direction.vector).sum = -(ds.map Direction.vector).sum := by
  rw [List.sum_neg, List.map_map, List.map_map]
  exact congrArg List.sum (List.map_congr_left fun d _ => d.opposite_vector)

/-- The steps opposite to those of a walk lead back to its start, in whatever order they are
taken. -/
theorem walk_opposites (hperm : es.Perm (ds.map Direction.opposite)) (h : Hex) :
    (h.walk ds).walk es = h := by
  apply slant_injective
  rw [walk_eq_of_perm hperm, walk_eq_move, walk_eq_move, sum_vector_opposite, slant_move,
    slant_move, add_neg_cancel_right]

/-- The cells of the unbounded grid make up a lattice. In the coordinates of `slant` every step in a
direction adds the same vector, opposite directions have opposite vectors, and two directions that
are two turns apart add up to the one between them. The cell that a walk reaches depends only on
its start and on the number of its steps in each direction, and the opposites of its steps lead back
to the start, in whatever order they are taken. -/
theorem walk_lattice :
    (∀ (d : Direction) (h : Hex), (d.step h).slant = h.slant + d.vector) ∧
    (∀ d : Direction, d.opposite.vector = -d.vector) ∧
    (∀ d : Direction, d.vector + d.right.right.vector = d.right.vector) ∧
    (∀ (h : Hex) (ds : List Direction),
      (h.walk ds).slant = h.slant + (Direction.all.map fun d => ds.count d • d.vector).sum) ∧
    (∀ (h : Hex) (ds es : List Direction), (∀ d, ds.count d = es.count d) →
      h.walk ds = h.walk es) ∧
    ∀ (h : Hex) (ds es : List Direction), es.Perm (ds.map Direction.opposite) →
      (h.walk ds).walk es = h := by
  refine ⟨Direction.slant_step, Direction.opposite_vector, Direction.vector_right_right, slant_walk,
    fun h ds es hcount => ?_, fun h ds es hperm => walk_opposites hperm h⟩
  exact walk_eq_of_perm (List.perm_iff_count.2 hcount) h

/-- Three steps from a cell on an odd row above the origin reach the same cell when they are taken
in another order, over rows of other parities, and three steps lead back. -/
theorem walk_lattice_back :
    let h : Hex := ⟨-3, -2⟩
    let ds : List Direction := [.northEast, .northEast, .southEast]
    let es : List Direction := [.northEast, .southEast, .northEast]
    let back : List Direction := [.northWest, .southWest, .southWest]
    ((∀ d, ds.count d = es.count d) ∧ h.walk ds = h.walk es ∧ h.walk ds = ⟨-4, 0⟩) ∧
      back.Perm (ds.map Direction.opposite) ∧ (h.walk ds).walk back = h := by
  intro h ds es back
  have hcount : ∀ d, ds.count d = es.count d := fun d => by cases d <;> rfl
  have hperm : back.Perm (ds.map Direction.opposite) := by decide
  obtain ⟨-, -, -, -, horder, hback⟩ := walk_lattice
  exact ⟨⟨hcount, horder h ds es hcount, rfl⟩, hperm, hback h ds back hperm⟩

end Hex

end Formicary
