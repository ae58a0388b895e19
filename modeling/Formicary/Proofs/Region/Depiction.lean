import Formicary.Direction
import Formicary.Proofs.Region.Silhouette
import Mathlib.Data.Set.Finite.Lemmas
import Mathlib.Data.Set.Finite.List
import Mathlib.Order.Bounds.Basic

/-!
# Pictures of sets of cells

A silhouette is the picture of one set of cells of the lattice (`Silhouette.Depicts`): moved up by
the least row and to the left by the least column of the set, the cells of the set are the cells
of the picture, and no line or column at the edges of the picture is blank.

A set has no two pictures (`Depicts.unique`), so what holds of one picture of a set holds of the
set. The silhouette of a list of cells is the picture of these cells, whatever the order in which
they are listed and however often (`depicts_ofCells`), and a picture has as many cells as its set
(`Depicts.exists_list`).
-/

namespace Formicary

namespace Silhouette

/-- A silhouette is the picture of a set of cells. -/
structure Depicts (s : Silhouette) (S : Set Hex) : Prop where
  /-- The lines have the same length, and none of the edges is blank. -/
  tight : Tight s.rows s.width
  /-- The first line lies on the first row of the set. -/
  top : IsLeast (Hex.row '' S) s.top
  /-- The first column lies on the first column of the set, and the picture has a cell where the
  set has one. -/
  shifted : ∃ left : Nat, IsLeast (Hex.col '' S) left ∧
    ∀ r c : Nat, has s.rows r c = true ↔ (⟨s.top + r, left + c⟩ : Hex) ∈ S

/-- The cells of the lattice with the given rows and columns. -/
def cellsAt (cells : List (Nat × Nat)) : Set Hex :=
  {x | ∃ cell ∈ cells, (⟨cell.1, cell.2⟩ : Hex) = x}

variable {s s' : Silhouette} {S : Set Hex} {rows rows' : List (List Bool)}
  {width width' top left : Nat} {cells : List (Nat × Nat)}

/-! ### Tight pictures -/

/-- A picture that is given place by place has its cells where it is said to have them. -/
theorem has_map_range {h w : Nat} {f : Nat → Nat → Bool} {r c : Nat} :
    has ((List.range h).map fun r => (List.range w).map (f r)) r c = true ↔
      r < h ∧ c < w ∧ f r c = true := by
  unfold has
  by_cases hr : r < h
  · by_cases hc : c < w
    · simp [hr, hc]
    · simp [hr, hc]
  · simp [hr]

theorem Tight.length_pos (htight : Tight rows width) : 0 < rows.length := by
  obtain ⟨c, -, hhas⟩ := htight.top
  exact (htight.lt_of_has hhas).1

/-- The width of a tight picture is the length of its lines. -/
theorem Tight.width_eq (htight : Tight rows width) : Silhouette.width ⟨rows, top⟩ = width := by
  obtain ⟨c, -, hhas⟩ := htight.top
  exact htight.rectangular.width_eq hhas

/-- Tight pictures with the same cells have no more lines and no longer lines than each other. -/
theorem Tight.size_le (htight : Tight rows width) (htight' : Tight rows' width')
    (hhas : ∀ r c, has rows r c = true → has rows' r c = true) :
    rows.length ≤ rows'.length ∧ width ≤ width' := by
  -- The last line and the last column are not blank, so the other picture reaches as far.
  obtain ⟨c, -, hbottom⟩ := htight.bottom
  obtain ⟨r, -, hright⟩ := htight.right
  have hlines := (htight'.lt_of_has (hhas _ _ hbottom)).1
  have hplaces := (htight'.lt_of_has (hhas _ _ hright)).2
  omega

/-- Tight pictures with the same cells are the same. -/
theorem Tight.unique (htight : Tight rows width) (htight' : Tight rows' width')
    (hhas : ∀ r c, has rows r c = true ↔ has rows' r c = true) : rows = rows' := by
  obtain ⟨hlines, hplaces⟩ := htight.size_le htight' fun r c => (hhas r c).1
  obtain ⟨hlines', hplaces'⟩ := htight'.size_le htight fun r c => (hhas r c).2
  have hsame : has rows = has rows' := by
    ext r c
    rw [Bool.eq_iff_iff]
    exact hhas r c
  rw [htight.rectangular.eq_map_has, htight'.rectangular.eq_map_has, hsame,
    Nat.le_antisymm hlines hlines', Nat.le_antisymm hplaces hplaces']

/-! ### Pictures -/

/-- A tight picture, moved down and to the right, is the picture of the cells that it then
covers. -/
theorem Tight.depicts (htight : Tight rows width)
    (hmem : ∀ x, x ∈ S ↔ ∃ r c : Nat, has rows r c = true ∧ (⟨top + r, left + c⟩ : Hex) = x) :
    Depicts ⟨rows, top⟩ S := by
  -- A tight picture has a cell in its first line and one in its first column, so `top` and `left`
  -- are the least row and column of the set.
  refine ⟨by rwa [htight.width_eq], ⟨?_, ?_⟩, left, ⟨?_, ?_⟩, fun r c => ?_⟩
  · obtain ⟨c, -, hhas⟩ := htight.top
    exact ⟨_, (hmem _).2 ⟨0, c, hhas, rfl⟩, by simp⟩
  · rintro _ ⟨x, hx, rfl⟩
    obtain ⟨r, c, -, rfl⟩ := (hmem x).1 hx
    show (top : Int) ≤ top + r
    omega
  · obtain ⟨r, -, hhas⟩ := htight.left
    exact ⟨_, (hmem _).2 ⟨r, 0, hhas, rfl⟩, by simp⟩
  · rintro _ ⟨x, hx, rfl⟩
    obtain ⟨r, c, -, rfl⟩ := (hmem x).1 hx
    show (left : Int) ≤ left + c
    omega
  · rw [hmem]
    constructor
    · exact fun hhas => ⟨r, c, hhas, rfl⟩
    · rintro ⟨r', c', hhas, hsame⟩
      simp only [Hex.mk.injEq] at hsame
      obtain rfl : r' = r := by omega
      obtain rfl : c' = c := by omega
      exact hhas

/-- The cells of a set are the cells of its picture, moved back to their rows and columns. -/
theorem Depicts.exists_mem_iff (h : s.Depicts S) : ∃ left : Nat, ∀ x,
    x ∈ S ↔ ∃ r c : Nat, has s.rows r c = true ∧ (⟨s.top + r, left + c⟩ : Hex) = x := by
  obtain ⟨left, hleft, hhas⟩ := h.shifted
  refine ⟨left, fun x => ⟨fun hx => ?_, ?_⟩⟩
  · -- No cell lies above the first row or to the left of the first column.
    have hrow : (s.top : Int) ≤ x.row := h.top.2 ⟨x, hx, rfl⟩
    have hcol : (left : Int) ≤ x.col := hleft.2 ⟨x, hx, rfl⟩
    have hx' : (⟨s.top + (x.row - s.top).toNat, left + (x.col - left).toNat⟩ : Hex) = x := by
      obtain ⟨row, col⟩ := x
      rw [Hex.mk.injEq]
      simp only at hrow hcol ⊢
      omega
    exact ⟨_, _, (hhas _ _).2 (hx'.symm ▸ hx), hx'⟩
  · rintro ⟨r, c, hcell, rfl⟩
    exact (hhas r c).1 hcell

/-- A set of cells has one picture. -/
theorem Depicts.unique (h : s.Depicts S) (h' : s'.Depicts S) : s = s' := by
  obtain ⟨rows, top⟩ := s
  obtain ⟨rows', top'⟩ := s'
  obtain ⟨left, hleft, hhas⟩ := h.shifted
  obtain ⟨left', hleft', hhas'⟩ := h'.shifted
  obtain rfl : top = top' := Int.ofNat_inj.1 (h.top.unique h'.top)
  obtain rfl : left = left' := Int.ofNat_inj.1 (hleft.unique hleft')
  have hrows : rows = rows' := h.tight.unique h'.tight fun r c => (hhas r c).trans (hhas' r c).symm
  rw [hrows]

/-- The cells of a set can be listed, each once, in as many places as its picture has cells. -/
theorem Depicts.exists_list (h : s.Depicts S) :
    ∃ l : List Hex, l.Nodup ∧ (∀ x, x ∈ l ↔ x ∈ S) ∧ l.length = s.cellCount := by
  obtain ⟨left, hmem⟩ := h.exists_mem_iff
  refine ⟨(shown s.rows s.width).map fun place => ⟨s.top + place.1, left + place.2⟩, ?_,
    fun x => ?_, by rw [List.length_map, h.tight.rectangular.length_shown, cellCount]⟩
  · refine (nodup_shown ..).map ?_
    rintro ⟨r, c⟩ ⟨r', c'⟩ hsame
    simp only [Hex.mk.injEq] at hsame
    rw [Prod.mk.injEq]
    omega
  · simp only [hmem, List.mem_map, Prod.exists, h.tight.mem_shown_iff]

/-! ### The silhouette of a list of cells -/

/-- Some tight picture shows the cells of a list. -/
theorem exists_tight (hne : cells ≠ []) : ∃ rows width top left, Tight rows width ∧
    ∀ r c, (r, c) ∈ cells ↔ top ≤ r ∧ left ≤ c ∧ has rows (r - top) (c - left) = true := by
  have hfinite : {cell | cell ∈ cells}.Finite := List.finite_toSet cells
  have hnonempty : {cell | cell ∈ cells}.Nonempty := List.exists_mem_of_ne_nil cells hne
  obtain ⟨⟨top, c₁⟩, htop, hle₁⟩ := Set.exists_min_image _ Prod.fst hfinite hnonempty
  obtain ⟨⟨bottom, c₂⟩, hbottom, hle₂⟩ := Set.exists_max_image _ Prod.fst hfinite hnonempty
  obtain ⟨⟨r₁, left⟩, hleft, hle₃⟩ := Set.exists_min_image _ Prod.snd hfinite hnonempty
  obtain ⟨⟨r₂, right⟩, hright, hle₄⟩ := Set.exists_max_image _ Prod.snd hfinite hnonempty
  simp only [Set.mem_ofPred_eq] at htop hbottom hleft hright hle₁ hle₂ hle₃ hle₄
  have hbox : ∀ r c, (r, c) ∈ cells → top ≤ r ∧ r ≤ bottom ∧ left ≤ c ∧ c ≤ right :=
    fun r c hcell => ⟨hle₁ _ hcell, hle₂ _ hcell, hle₃ _ hcell, hle₄ _ hcell⟩
  let mark (r c : Nat) : Bool := (top + r, left + c) ∈ cells
  let rows := (List.range (bottom - top + 1)).map fun r =>
    (List.range (right - left + 1)).map (mark r)
  have hlength : rows.length = bottom - top + 1 := by simp [rows]
  -- Within the box the picture has a cell where the list has one.
  have hhas : ∀ r c, (r, c) ∈ cells → has rows (r - top) (c - left) = true := by
    intro r c hcell
    obtain ⟨hr, hr', hc, hc'⟩ := hbox r c hcell
    have hmark : mark (r - top) (c - left) = true := by
      simpa [mark, Nat.add_sub_of_le hr, Nat.add_sub_of_le hc] using hcell
    exact has_map_range.2 ⟨by omega, by omega, hmark⟩
  refine ⟨rows, right - left + 1, top, left, ⟨?_, ?_, ?_, ?_, ?_⟩, fun r c => ⟨?_, ?_⟩⟩
  · intro line hline
    obtain ⟨r, -, rfl⟩ := List.mem_map.1 hline
    rw [List.length_map, List.length_range]
  · refine ⟨c₁ - left, by have := hbox _ _ htop; omega, ?_⟩
    simpa using hhas _ _ htop
  · refine ⟨c₂ - left, by have := hbox _ _ hbottom; omega, ?_⟩
    simpa [hlength] using hhas _ _ hbottom
  · refine ⟨r₁ - top, by have := hbox _ _ hleft; omega, ?_⟩
    simpa using hhas _ _ hleft
  · refine ⟨r₂ - top, by have := hbox _ _ hright; omega, ?_⟩
    simpa using hhas _ _ hright
  · intro hcell
    obtain ⟨hr, -, hc, -⟩ := hbox r c hcell
    exact ⟨hr, hc, hhas r c hcell⟩
  · rintro ⟨hr, hc, hcell⟩
    have hmark := (has_map_range.1 hcell).2.2
    simpa [mark, Nat.add_sub_of_le hr, Nat.add_sub_of_le hc] using hmark

/-- The silhouette of a list of cells is the picture of these cells. -/
theorem depicts_ofCells (hne : cells ≠ []) : (ofCells cells).Depicts (cellsAt cells) := by
  obtain ⟨rows, width, top, left, htight, hmem⟩ := exists_tight hne
  rw [ofCells_eq htight hmem]
  apply htight.depicts
  show ∀ x, x ∈ cellsAt cells ↔ ∃ r c : Nat, has rows r c = true ∧ (⟨top + r, left + c⟩ : Hex) = x
  intro x
  constructor
  · rintro ⟨⟨r, c⟩, hcell, rfl⟩
    obtain ⟨hr, hc, hhas⟩ := (hmem r c).1 hcell
    refine ⟨r - top, c - left, hhas, ?_⟩
    rw [Hex.mk.injEq]
    omega
  · rintro ⟨r, c, hhas, rfl⟩
    refine ⟨(top + r, left + c), (hmem _ _).2 ?_, by simp⟩
    rw [Nat.add_sub_cancel_left, Nat.add_sub_cancel_left]
    exact ⟨Nat.le_add_right .., Nat.le_add_right .., hhas⟩

end Silhouette

end Formicary
