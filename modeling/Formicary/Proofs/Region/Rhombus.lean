import Formicary.Proofs.Region.Distance
import Formicary.Proofs.Region.Overlay

/-!
# Rhombi

A food blob is a rhombus of five by five cells (`Hex.rhombus`): the cells that are reached from its
first cell by up to four steps along one axis and then up to four along the other. All of its cells
may be moved by the same vector (`Hex.image_move_rhombus`).

The six pictures of the legal blobs show three rhombi, each of them once as it looks on even rows
and once as it looks on odd rows, and in the same order (`Silhouette.draws_foodStencils`). So a blob
is cut out of the picture of a set if a rhombus at the first cell of the set belongs to the set, and
it is the first such rhombus (`Silhouette.Depicts.cutBlob_cases`).
-/

namespace Formicary

namespace Hex

/-- The vectors that lead from the first cell of a rhombus to its cells. -/
def rhombusVectors (axes : Direction × Direction) : List (Int × Int) :=
  (List.range 5).flatMap fun i =>
    (List.range 5).map fun j => i • axes.1.vector + j • axes.2.vector

/-- The rhombus of five by five cells with the given first cell and axes. -/
def rhombus (a : Hex) (axes : Direction × Direction) : Set Hex :=
  {h | ∃ i ≤ 4, ∃ j ≤ 4, a.walk (List.replicate i axes.1 ++ List.replicate j axes.2) = h}

variable {a b h : Hex} {S : Set Hex} {axes : Direction × Direction} {v w : Int × Int}

theorem mem_rhombus_iff : h ∈ rhombus a axes ↔ ∃ v ∈ rhombusVectors axes, a.move v = h := by
  simp only [rhombus, rhombusVectors, walk_eq_move, List.map_append, List.map_replicate,
    List.sum_append, List.sum_replicate, List.mem_flatMap, List.mem_map, List.mem_range,
    Set.mem_ofPred_eq]
  constructor
  · rintro ⟨i, hi, j, hj, hmove⟩
    exact ⟨_, ⟨i, by omega, j, by omega, rfl⟩, hmove⟩
  · rintro ⟨_, ⟨i, hi, j, hj, rfl⟩, hmove⟩
    exact ⟨i, by omega, j, by omega, hmove⟩

/-! ### Translations -/

/-- Moving all cells of a rhombus moves its first cell. -/
theorem image_move_rhombus (a : Hex) (axes : Direction × Direction) (v : Int × Int) :
    (fun h : Hex => h.move v) '' rhombus a axes = rhombus (a.move v) axes := by
  ext h
  simp only [Set.mem_image, mem_rhombus_iff]
  constructor
  · rintro ⟨_, ⟨w, hw, rfl⟩, rfl⟩
    exact ⟨w, hw, move_move_comm ..⟩
  · rintro ⟨w, hw, rfl⟩
    exact ⟨_, ⟨w, hw, rfl⟩, move_move_comm ..⟩

/-- A vector moves the first cell of a set to the first cell of the moved set: it moves the cells of
one row by equal numbers of columns. -/
theorem IsFirst.move (ha : IsFirst S a) (v : Int × Int) :
    IsFirst ((fun h : Hex => h.move v) '' S) (a.move v) := by
  refine ⟨⟨a, ha.1, rfl⟩, ?_⟩
  rintro _ ⟨b, hb, rfl⟩
  have hle := ha.2 b hb
  simp only [Hex.move]
  rcases hle with hlt | ⟨heq, hle⟩
  · exact Or.inl (by omega)
  · exact Or.inr (by rw [heq]; omega)

/-- The axes of the legal blobs, in the order in which the blobs are tried. -/
def foodAxes : List (Direction × Direction) :=
  [(.east, .southEast), (.east, .southWest), (.southEast, .southWest)]

open Classical in
/-- The axes of the first rhombus with the given first cell that belongs to a set. -/
noncomputable def firstFit (S : Set Hex) (a : Hex) : Option (Direction × Direction) :=
  foodAxes.find? fun axes => rhombus a axes ⊆ S

/-- Which rhombus fits first does not change when the set and its first cell are moved. -/
theorem firstFit_move (S : Set Hex) (a : Hex) (v : Int × Int) :
    firstFit ((fun h : Hex => h.move v) '' S) (a.move v) = firstFit S a := by
  unfold firstFit
  congr 1
  funext axes
  rw [← image_move_rhombus, decide_eq_decide]
  exact Set.image_subset_image_iff (injective_move v)

/-- A rhombus that fits first is one of the legal ones, and it belongs to the set. -/
theorem firstFit_spec (hfit : firstFit S a = some axes) : axes ∈ foodAxes ∧ rhombus a axes ⊆ S :=
  ⟨List.mem_of_find?_eq_some hfit, by simpa using List.find?_some hfit⟩

end Hex

namespace Silhouette

variable {s rest : Silhouette} {S : Set Hex} {a : Hex} {stencil : Stencil}
  {axes : Direction × Direction} {oddTop : Bool} {width maskCol : Nat}

instance (rows : List (List Bool)) (c : Nat) : Decidable (FirstMark rows c) :=
  inferInstanceAs (Decidable (_ ∧ ∀ c' < c, has rows 0 c' = false))

/-- The vector that leads from the cell in column `maskCol` of the first line of a picture to a
place of the picture, when the first line lies on an odd or on an even row. -/
def placeVector (oddTop : Bool) (maskCol : Nat) (place : Nat × Nat) : Int × Int :=
  (place.2 - maskCol - (place.1 + oddTop.toInt) / 2, place.1)

/-- A stencil draws the rhombus with the given axes: its cells are those of the rhombus whose first
cell is the first cell of the first line. -/
def Draws (oddTop : Bool) (stencil : Stencil) (axes : Direction × Direction) : Prop :=
  ∃ width ≤ 7, ∃ maskCol ≤ 2, Tight stencil width ∧ FirstMark stencil maskCol ∧
    ((shown stencil width).map (placeVector oddTop maskCol)).Perm (Hex.rhombusVectors axes)

instance (oddTop : Bool) (stencil : Stencil) (axes : Direction × Direction) :
    Decidable (Draws oddTop stencil axes) :=
  inferInstanceAs (Decidable (∃ width ≤ 7, ∃ maskCol ≤ 2, _ ∧ _ ∧ _))

/-- Each of the stencils draws one of the rhombi, in the same order on odd and on even rows. -/
theorem draws_foodStencils :
    ∀ oddTop : Bool, List.Forall₂ (Draws oddTop) (foodStencils oddTop) Hex.foodAxes := by
  decide +kernel

/-- The vectors of the places lead to where the places of a stencil are laid. -/
theorem move_placeVector (a : Hex) (maskCol r c : Nat) :
    a.move (placeVector (a.row % 2 == 1) maskCol (r, c)) = ⟨a.row + r, a.col + c - maskCol⟩ := by
  -- Half a row is rounded up on odd rows and down on even ones.
  rcases Int.emod_two_eq a.row with hrow | hrow
  · rw [hrow]
    simp only [Hex.move, placeVector, Hex.mk.injEq, true_and]
    show a.col + (c - maskCol - (r + (0 : Int)) / 2) + ((a.row + r) / 2 - a.row / 2) = _
    omega
  · rw [hrow]
    simp only [Hex.move, placeVector, Hex.mk.injEq, true_and]
    show a.col + (c - maskCol - (r + (1 : Int)) / 2) + ((a.row + r) / 2 - a.row / 2) = _
    omega

/-- A stencil that draws a rhombus covers a rhombus wherever it is laid. -/
theorem laid_eq_rhombus (a : Hex) (hstencil : Tight stencil width)
    (hdraws : ((shown stencil width).map (placeVector (a.row % 2 == 1) maskCol)).Perm
      (Hex.rhombusVectors axes)) : laid stencil maskCol a = Hex.rhombus a axes := by
  ext x
  rw [Hex.mem_rhombus_iff]
  constructor
  · rintro ⟨r, c, hmark, rfl⟩
    have hplace : (r, c) ∈ shown stencil width := hstencil.mem_shown_iff.2 hmark
    exact ⟨_, hdraws.mem_iff.1 (List.mem_map_of_mem hplace), move_placeVector ..⟩
  · rintro ⟨v, hv, rfl⟩
    obtain ⟨⟨r, c⟩, hplace, rfl⟩ := List.mem_map.1 (hdraws.mem_iff.2 hv)
    exact ⟨r, c, hstencil.mem_shown_iff.1 hplace, (move_placeVector ..).symm⟩

/-- A stencil fits a picture of a set where the rhombus that it draws fits the set. -/
def FitsLike (s : Silhouette) (S : Set Hex) (a : Hex) (stencil : Stencil)
    (axes : Direction × Direction) : Prop :=
  (Hex.rhombus a axes ⊆ S ∧
    ∃ rest, s.overlay stencil = some rest ∧ rest.Remains (S \ Hex.rhombus a axes)) ∨
  (¬Hex.rhombus a axes ⊆ S ∧ s.overlay stencil = none)

theorem Depicts.fitsLike (h : s.Depicts S) (ha : Hex.IsFirst S a)
    (hdraws : Draws (s.top % 2 == 1) stencil axes) : FitsLike s S a stencil axes := by
  obtain ⟨width, -, maskCol, -, htight, hmaskCol, hvectors⟩ := hdraws
  obtain ⟨left, col, -, hfirst, -⟩ := h.exists_firstMark
  have hrow : a.row = s.top := by rw [ha.unique hfirst]
  -- The stencils are chosen by the row of the first line, which is the row of the first cell.
  have hodd : (s.top % 2 == 1) = (a.row % 2 == 1) := by
    rw [hrow, Bool.eq_iff_iff, beq_iff_eq, beq_iff_eq]
    omega
  rw [hodd] at hvectors
  have hcases := h.overlay_cases ha htight hmaskCol
  rwa [laid_eq_rhombus a htight hvectors] at hcases

/-- A blob can be cut out of a picture of a set if and only if some rhombus fits at the first cell
of the set. It is the first that fits which is cut out. -/
theorem Depicts.cutBlob_cases (h : s.Depicts S) (ha : Hex.IsFirst S a) :
    (∃ axes rest, Hex.firstFit S a = some axes ∧ s.cutBlob = some rest ∧
      rest.Remains (S \ Hex.rhombus a axes)) ∨
    (Hex.firstFit S a = none ∧ s.cutBlob = none) := by
  have hfits : List.Forall₂ (FitsLike s S a) (foodStencils (s.top % 2 == 1)) Hex.foodAxes :=
    (draws_foodStencils _).imp fun stencil axes hdraws => h.fitsLike ha hdraws
  unfold Hex.firstFit cutBlob
  generalize foodStencils (s.top % 2 == 1) = stencils, Hex.foodAxes = axesList at hfits
  -- Both searches stop at the same place of the lists.
  induction hfits with
  | nil => exact Or.inr ⟨rfl, rfl⟩
  | @cons stencil axes stencils others hfit _ ih =>
    rw [List.findSome?_cons]
    rcases hfit with ⟨hsub, rest, hoverlay, hrest⟩ | ⟨hsub, hoverlay⟩
    · rw [hoverlay, List.find?_cons_of_pos (by simpa using hsub)]
      exact Or.inl ⟨axes, rest, rfl, rfl, hrest⟩
    · rw [hoverlay, List.find?_cons_of_neg (by simpa using hsub)]
      exact ih

end Silhouette

end Formicary
