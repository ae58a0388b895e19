import Formicary.Proofs.Region.Crop
import Formicary.Proofs.Region.Depiction

/-!
# Laying a stencil over a picture

A stencil is laid over a picture so that the first cells of their first lines coincide. If it fits,
the cells that it covers are cut out, no others are (`Silhouette.cutRows_spec`), and what is left is
cropped.

What is cut out of the picture of a set is a set of cells that does not depend on how the picture is
cropped: it begins at the first cell of the set (`Hex.IsFirst`), and the stencil fits if and only if
these cells belong to the set (`Silhouette.Depicts.overlay_cases`). The guards about the extent of
the picture exclude nothing else. After any number of rounds the picture shows what is left of the
set (`Silhouette.Remains`).
-/

namespace Formicary

namespace Hex

/-- The first cell of a set, when it is read row by row. -/
def IsFirst (S : Set Hex) (a : Hex) : Prop :=
  a ∈ S ∧ ∀ b ∈ S, a.row < b.row ∨ a.row = b.row ∧ a.col ≤ b.col

/-- A set has no two first cells. -/
theorem IsFirst.unique {S : Set Hex} {a b : Hex} (ha : IsFirst S a) (hb : IsFirst S b) : a = b := by
  obtain ⟨row, col⟩ := a
  obtain ⟨row', col'⟩ := b
  have hle := ha.2 _ hb.1
  have hge := hb.2 _ ha.1
  simp only [Hex.mk.injEq] at hle hge ⊢
  omega

end Hex

namespace Silhouette

variable {s rest : Silhouette} {S : Set Hex} {rows cut : List (List Bool)}
  {row row' mask : List Bool} {stencil : Stencil} {width width' top left shift r c : Nat}

/-! ### Cutting -/

/-- A mask that is cut out of a line covers cells only, and exactly these are cleared. -/
theorem cutLine_spec (h : cutLine row mask = some row') :
    row'.length = row.length ∧ ∀ c : Nat, (mask[c]? = some true → row[c]? = some true) ∧
      (row'[c]? = some true ↔ row[c]? = some true ∧ mask[c]? ≠ some true) := by
  fun_induction cutLine row mask generalizing row' with
  | case1 row =>
    obtain rfl := Option.some.inj h
    simp
  | case2 mask hne hany => cases h
  | case3 mask hne hany =>
    obtain rfl := Option.some.inj h
    have hblank := Bool.eq_false_iff.2 hany
    exact ⟨rfl, fun c => ⟨fun hmark => absurd hmark (not_mark_of_blank hblank), by simp⟩⟩
  | case4 b row m mask hclash => cases h
  | case5 b row m mask hclash ih =>
    obtain ⟨row₁, hrest, rfl⟩ := Option.map_eq_some_iff.1 h
    obtain ⟨hlength, hmarks⟩ := ih hrest
    refine ⟨congrArg (· + 1) hlength, fun c => ?_⟩
    cases c with
    | zero =>
      -- The first place is neither covered without a cell nor left when it is covered.
      revert hclash
      cases b <;> cases m <;> simp
    | succ c =>
      simp only [List.getElem?_cons_succ]
      exact hmarks c

/-- A mask that covers cells only can be cut out. -/
theorem exists_cutLine (h : ∀ c : Nat, mask[c]? = some true → row[c]? = some true) :
    ∃ row', cutLine row mask = some row' := by
  fun_induction cutLine row mask with
  | case1 row => exact ⟨row, rfl⟩
  | case2 mask hne hany =>
    obtain ⟨c, hmark⟩ := exists_mark hany
    simpa using h c hmark
  | case3 mask hne hany => exact ⟨[], rfl⟩
  | case4 b row m mask hclash =>
    have hfirst := h 0
    revert hclash
    cases b <;> cases m <;> simp_all
  | case5 b row m mask hclash ih =>
    obtain ⟨row', hrest⟩ := ih fun c hmark => by simpa using h (c + 1) (by simpa using hmark)
    exact ⟨_, by rw [hrest, Option.map_some]⟩

theorem getElem?_shifted :
    (List.replicate shift false ++ mask)[c]? = some true ↔
      shift ≤ c ∧ mask[c - shift]? = some true := by
  by_cases hc : c < shift
  · rw [List.getElem?_append_left (by simpa using hc)]
    simp [hc]
  · rw [List.getElem?_append_right (by simpa using hc), List.length_replicate]
    simp [Nat.le_of_not_lt hc]

theorem has_cons_zero : has (row :: rows) 0 c = true ↔ row[c]? = some true := by
  rw [has_eq_true_iff]
  simp

theorem has_cons_succ : has (row :: rows) (r + 1) c = has rows r c := rfl

/-- A stencil that is cut out of a picture covers cells only, and exactly these are cleared. -/
theorem cutRows_spec (h : cutRows shift rows stencil = some cut) :
    (∀ width, Rectangular rows width → Rectangular cut width) ∧
      ∀ r c, (has stencil r c = true → has rows r (c + shift) = true) ∧
        (has cut r c = true ↔
          has rows r c = true ∧ ¬(shift ≤ c ∧ has stencil r (c - shift) = true)) := by
  fun_induction cutRows shift rows stencil generalizing cut with
  | case1 rows =>
    obtain rfl := Option.some.inj h
    exact ⟨fun _ hrect => hrect, fun r c => by simp [has]⟩
  | case2 mask stencil => cases h
  | case3 row rows mask stencil row' rows' hrows hrow ih =>
    obtain rfl := Option.some.inj h
    obtain ⟨hlength, hmarks⟩ := cutLine_spec hrow
    obtain ⟨hrect, hcells⟩ := ih hrows
    refine ⟨fun width hwidth => ?_, fun r c => ?_⟩
    · obtain ⟨hfirst, hothers⟩ := List.forall_mem_cons.1 hwidth
      exact List.forall_mem_cons.2 ⟨hlength.trans hfirst, hrect width hothers⟩
    · cases r with
      | zero =>
        -- The mask of this line has been moved to the right.
        have hcovered := (hmarks (c + shift)).1
        have hcleared := (hmarks c).2
        rw [Ne, getElem?_shifted] at hcleared
        rw [getElem?_shifted, Nat.add_sub_cancel] at hcovered
        simp only [has_cons_zero]
        exact ⟨fun hmark => hcovered ⟨Nat.le_add_left .., hmark⟩, hcleared⟩
      | succ r =>
        simp only [has_cons_succ]
        exact hcells r c
  | case4 => cases h

/-- A stencil with no more lines than the picture, which covers cells only, can be cut out. -/
theorem exists_cutRows (hlength : stencil.length ≤ rows.length)
    (h : ∀ r c, has stencil r c = true → has rows r (c + shift) = true) :
    ∃ cut, cutRows shift rows stencil = some cut := by
  induction stencil generalizing rows with
  | nil => exact ⟨rows, by cases rows <;> rfl⟩
  | cons mask stencil ih =>
    cases rows with
    | nil => simp at hlength
    | cons row rows =>
      obtain ⟨cut, hcut⟩ := ih (Nat.le_of_succ_le_succ hlength) fun r c hmark => h (r + 1) c hmark
      obtain ⟨row', hrow⟩ : ∃ row', cutLine row (List.replicate shift false ++ mask) =
          some row' := by
        refine exists_cutLine fun c hmark => ?_
        obtain ⟨hle, hmark'⟩ := getElem?_shifted.1 hmark
        have hfirst := h 0 (c - shift) (has_cons_zero.2 hmark')
        rwa [Nat.sub_add_cancel hle, has_cons_zero] at hfirst
      exact ⟨row' :: cut, by rw [cutRows, hrow, hcut]⟩

/-! ### Laying -/

/-- The first line of a picture has its first cell in a column. -/
def FirstMark (rows : List (List Bool)) (c : Nat) : Prop :=
  has rows 0 c = true ∧ ∀ c' < c, has rows 0 c' = false

theorem findIdx?_eq_some_iff : row.findIdx? id = some c ↔ FirstMark (row :: rows) c := by
  rw [List.findIdx?_eq_some_iff_getElem]
  unfold FirstMark
  constructor
  · rintro ⟨hc, hmark, hbefore⟩
    refine ⟨has_cons_zero.2 (List.getElem?_eq_some_iff.2 ⟨hc, hmark⟩), fun c' hc' => ?_⟩
    rw [← Bool.not_eq_true, has_cons_zero, List.getElem?_eq_getElem (Nat.lt_trans hc' hc)]
    simpa using hbefore c' hc'
  · rintro ⟨hmark, hbefore⟩
    obtain ⟨hc, hmark⟩ := List.getElem?_eq_some_iff.1 (has_cons_zero.1 hmark)
    refine ⟨hc, hmark, fun c' hc' => ?_⟩
    have hblank := hbefore c' hc'
    rw [← Bool.not_eq_true, has_cons_zero, List.getElem?_eq_getElem (Nat.lt_trans hc' hc)] at hblank
    simpa using hblank

theorem exists_firstMark (h : has rows 0 c = true) : ∃ c, FirstMark rows c := by
  classical
  have hex : ∃ c, has rows 0 c = true := ⟨c, h⟩
  exact ⟨Nat.find hex, Nat.find_spec hex, fun c' hc' => Bool.eq_false_iff.2 (Nat.find_min hex hc')⟩

/-- What happens when a stencil is laid over a picture, once it is known where their first cells
are. -/
theorem overlay_eq {col maskCol : Nat} (hcol : FirstMark s.rows col)
    (hmaskCol : FirstMark stencil maskCol) :
    s.overlay stencil =
      if s.height < stencil.length ∨ col < maskCol ∨
          s.width < col - maskCol + (stencil.headD []).length then none
      else (cutRows (col - maskCol) s.rows stencil).map fun cut => crop ⟨cut, s.top⟩ := by
  obtain ⟨rows, top⟩ := s
  cases rows with
  | nil => exact absurd hcol.1 (by simp [has])
  | cons row rows =>
    cases stencil with
    | nil => exact absurd hmaskCol.1 (by simp [has])
    | cons mask stencil =>
      rw [overlay]
      simp only [List.head?_cons, Option.bind_eq_bind, Option.bind_some, List.headD_cons,
        findIdx?_eq_some_iff.2 hcol, findIdx?_eq_some_iff.2 hmaskCol]
      congr 1
      cases cutRows (col - maskCol) (row :: rows) (mask :: stencil) with
      | none => rfl
      | some cut => rfl

/-- A stencil that fits is cut out of a picture whose first line has a cell. -/
theorem exists_cut_of_overlay (h : s.overlay stencil = some rest) :
    ∃ shift cut col, has s.rows 0 col = true ∧ cutRows shift s.rows stencil = some cut ∧
      rest = crop ⟨cut, s.top⟩ := by
  obtain ⟨rows, top⟩ := s
  rw [overlay] at h
  simp only [Option.bind_eq_bind, Option.bind_eq_some_iff] at h
  obtain ⟨mask, -, row, hrow, col, hcol, maskCol, -, hcut⟩ := h
  obtain ⟨-, hsome⟩ := Option.ite_none_left_eq_some.1 hcut
  obtain ⟨cut, hcut, hrest⟩ := Option.bind_eq_some_iff.1 hsome
  cases rows with
  | nil => cases hrow
  | cons row' rows =>
    obtain rfl : row' = row := Option.some.inj hrow
    exact ⟨_, cut, col, (findIdx?_eq_some_iff.1 hcol).1, hcut, (Option.some.inj hrest).symm⟩

/-- What is cut out has as many cells as the stencil. -/
theorem ncard_marks_cut (hrect : Rectangular rows width)
    (hcut : cutRows shift rows stencil = some cut) :
    (marks cut).ncard + (marks stencil).ncard = (marks rows).ncard := by
  obtain ⟨-, hcells⟩ := cutRows_spec hcut
  -- The covered cells are those of the stencil, moved to the right.
  let moved : Set (Nat × Nat) := (fun place => (place.1, place.2 + shift)) '' marks stencil
  have hmoved : moved.ncard = (marks stencil).ncard := by
    refine Set.ncard_image_of_injective _ ?_
    rintro ⟨r, c⟩ ⟨r', c'⟩ hplace
    simp only [Prod.mk.injEq] at hplace ⊢
    omega
  have hsub : moved ⊆ marks rows := by
    rintro _ ⟨place, hmark, rfl⟩
    exact (hcells _ _).1 hmark
  have hmarks : marks cut = marks rows \ moved := by
    ext ⟨r, c⟩
    refine ((hcells r c).2).trans (and_congr_right fun _ => not_congr ?_)
    constructor
    · rintro ⟨hle, hmark⟩
      exact ⟨(r, c - shift), hmark, Prod.ext rfl (Nat.sub_add_cancel hle)⟩
    · rintro ⟨place, hmark, hplace⟩
      obtain ⟨rfl, rfl⟩ := Prod.mk.inj hplace
      rw [Nat.add_sub_cancel]
      exact ⟨Nat.le_add_left .., hmark⟩
  rw [hmarks, ← hmoved]
  exact Set.ncard_sdiff_add_ncard_of_subset hsub hrect.finite_marks

/-- Of a rectangular picture a rectangular one is left, with as many cells fewer as the stencil
has. -/
theorem cellCount_overlay (hrect : Rectangular s.rows width) (hstencil : Rectangular stencil width')
    (h : s.overlay stencil = some rest) :
    (∃ width, Rectangular rest.rows width) ∧
      rest.cellCount + cellCount ⟨stencil, 0⟩ = s.cellCount := by
  obtain ⟨shift, cut, col, hcol, hcut, rfl⟩ := exists_cut_of_overlay h
  have hcutRect : Rectangular cut width := (cutRows_spec hcut).1 width hrect
  have hcount := ncard_marks_cut hrect hcut
  have htotal : s.cellCount = (marks s.rows).ncard := hrect.cellCount_eq
  rw [hstencil.cellCount_eq, htotal, ← hcount]
  rcases Set.eq_empty_or_nonempty (marks cut) with hempty | ⟨⟨r, c⟩, hhas⟩
  · have hwidth : 0 < width := Nat.lt_of_le_of_lt (Nat.zero_le col) (hrect.lt_of_has hcol).2
    rw [crop_blank hcutRect hwidth hempty, hempty, Set.ncard_empty]
    exact ⟨⟨0, by simp [Rectangular]⟩, rfl⟩
  · obtain ⟨rows', width₁, n, m, hcrop, htight, htrimmed⟩ := crop_spec hcutRect hhas s.top
    rw [hcrop, htight.rectangular.cellCount_eq, htrimmed.ncard_marks]
    exact ⟨⟨width₁, htight.rectangular⟩, rfl⟩

/-! ### Pictures of what is left -/

/-- What is left of a set is seen in a picture, or nothing is left. -/
def Remains (s : Silhouette) (S : Set Hex) : Prop := s.rows = [] ∧ S = ∅ ∨ s.Depicts S

/-- Cropping makes a picture of a set out of a larger picture with the same cells. -/
theorem remains_crop (hrect : Rectangular cut width) (hwidth : 0 < width)
    (hmem : ∀ x, x ∈ S ↔ ∃ r c : Nat, has cut r c = true ∧ (⟨top + r, left + c⟩ : Hex) = x) :
    (crop ⟨cut, top⟩).Remains S := by
  rcases Set.eq_empty_or_nonempty (marks cut) with hempty | ⟨⟨r, c⟩, hhas⟩
  · rw [crop_blank hrect hwidth hempty]
    refine Or.inl ⟨rfl, Set.eq_empty_of_forall_notMem fun x hx => ?_⟩
    obtain ⟨r, c, hhas, -⟩ := (hmem x).1 hx
    have hplace : (r, c) ∈ marks cut := hhas
    simp [hempty] at hplace
  -- What is cropped off at the top and on the left is added to where the picture lies.
  · obtain ⟨rows', width', n, m, hcrop, htight, htrimmed⟩ := crop_spec hrect hhas top
    rw [hcrop]
    refine Or.inr ?_
    apply htight.depicts
    show ∀ x, x ∈ S ↔ ∃ r c : Nat, has rows' r c = true ∧
      (⟨(top + n : Nat) + r, (left + m : Nat) + c⟩ : Hex) = x
    intro x
    rw [hmem]
    constructor
    · rintro ⟨r, c, hhas, rfl⟩
      obtain ⟨hr, hc, hhas'⟩ := (htrimmed r c).1 hhas
      refine ⟨r - n, c - m, hhas', ?_⟩
      rw [Hex.mk.injEq]
      omega
    · rintro ⟨r, c, hhas', rfl⟩
      refine ⟨r + n, c + m, htrimmed.has_iff.1 hhas', ?_⟩
      rw [Hex.mk.injEq]
      omega

/-- The cells that a stencil covers when the cell in column `maskCol` of its first line is put on a
cell of the lattice. -/
def laid (stencil : Stencil) (maskCol : Nat) (a : Hex) : Set Hex :=
  {x | ∃ r c : Nat, has stencil r c = true ∧ (⟨a.row + r, a.col + c - maskCol⟩ : Hex) = x}

theorem mem_laid_iff {col maskCol : Nat} (hle : maskCol ≤ col) :
    (⟨top + r, left + c⟩ : Hex) ∈ laid stencil maskCol ⟨top, left + col⟩ ↔
      col - maskCol ≤ c ∧ has stencil r (c - (col - maskCol)) = true := by
  constructor
  · rintro ⟨r', c', hmark, hsame⟩
    simp only [Hex.mk.injEq] at hsame
    obtain rfl : r' = r := by omega
    obtain rfl : c' = c - (col - maskCol) := by omega
    exact ⟨by omega, hmark⟩
  · rintro ⟨hc, hmark⟩
    refine ⟨r, _, hmark, ?_⟩
    show (⟨top + r, left + col + ↑(c - (col - maskCol)) - maskCol⟩ : Hex) = ⟨top + r, left + c⟩
    rw [Hex.mk.injEq]
    omega

/-- The first cell of a set is the first cell of the first line of its picture. -/
theorem Depicts.exists_firstMark (h : s.Depicts S) : ∃ left col : Nat,
    FirstMark s.rows col ∧ Hex.IsFirst S ⟨s.top, left + col⟩ ∧
      ∀ x, x ∈ S ↔ ∃ r c : Nat, has s.rows r c = true ∧ (⟨s.top + r, left + c⟩ : Hex) = x := by
  obtain ⟨left, hmem⟩ := h.exists_mem_iff
  obtain ⟨c, -, htop⟩ := h.tight.top
  obtain ⟨col, hcol⟩ := Silhouette.exists_firstMark htop
  refine ⟨left, col, hcol, ⟨(hmem _).2 ⟨0, col, hcol.1, by simp⟩, fun b hb => ?_⟩, hmem⟩
  obtain ⟨r, c, hmark, rfl⟩ := (hmem b).1 hb
  rcases Nat.eq_zero_or_pos r with rfl | hr
  · -- In the first line there is no cell to the left of it.
    have hle : col ≤ c := Nat.le_of_not_lt fun hlt => by
      rw [hcol.2 c hlt] at hmark
      cases hmark
    exact Or.inr ⟨by simp, by simp only; omega⟩
  · exact Or.inl (by simp only; omega)

/-- A place of a stencil is put on a cell of a set if it is put on a cell of the picture. -/
theorem mem_iff_has {col maskCol : Nat} (hmem : ∀ x, x ∈ S ↔
      ∃ r c : Nat, has rows r c = true ∧ (⟨top + r, left + c⟩ : Hex) = x) (r c : Nat) :
    (⟨top + r, left + col + c - maskCol⟩ : Hex) ∈ S ↔
      maskCol ≤ col + c ∧ has rows r (col + c - maskCol) = true := by
  rw [hmem]
  constructor
  · rintro ⟨r', c', hmark, hsame⟩
    rw [Hex.mk.injEq] at hsame
    obtain rfl : r' = r := by omega
    obtain rfl : c' = col + c - maskCol := by omega
    exact ⟨by omega, hmark⟩
  · rintro ⟨hle, hmark⟩
    refine ⟨r, _, hmark, ?_⟩
    rw [Hex.mk.injEq]
    omega

/-- A tight stencil that is put on cells of a tight picture only has room in it, since it reaches
all sides of its box. -/
theorem Tight.room {col maskCol : Nat} (htight : Tight rows width)
    (hstencil : Tight stencil width')
    (hfits : ∀ r c, has stencil r c = true →
      maskCol ≤ col + c ∧ has rows r (col + c - maskCol) = true) :
    stencil.length ≤ rows.length ∧ maskCol ≤ col ∧ col - maskCol + width' ≤ width := by
  obtain ⟨r₀, -, hleft⟩ := hstencil.left
  obtain ⟨r₁, -, hright⟩ := hstencil.right
  obtain ⟨c₁, -, hbottom⟩ := hstencil.bottom
  have hle := (hfits _ _ hleft).1
  have hwidth := (hstencil.lt_of_has hright).2
  have hlines := (htight.lt_of_has (hfits _ _ hbottom).2).1
  have hplaces := (htight.lt_of_has (hfits _ _ hright).2).2
  omega

/-- A stencil fits at the first cell of a set if and only if the cells that it covers belong to the
set. Then these cells are cut out of the picture of the set. -/
theorem Depicts.overlay_cases (h : s.Depicts S) {a : Hex} (ha : Hex.IsFirst S a) {maskCol : Nat}
    (hstencil : Tight stencil width) (hmaskCol : FirstMark stencil maskCol) :
    (laid stencil maskCol a ⊆ S ∧
      ∃ rest, s.overlay stencil = some rest ∧ rest.Remains (S \ laid stencil maskCol a)) ∨
    (¬laid stencil maskCol a ⊆ S ∧ s.overlay stencil = none) := by
  obtain ⟨left, col, hcol, hfirst, hmem⟩ := h.exists_firstMark
  obtain rfl := hfirst.unique ha
  have hlength : Silhouette.width ⟨stencil, 0⟩ = width := hstencil.width_eq
  rw [overlay_eq hcol hmaskCol, show (stencil.headD []).length = width from hlength]
  by_cases hsub : laid stencil maskCol ⟨s.top, left + col⟩ ⊆ S
  · left
    have hfits : ∀ r c, has stencil r c = true →
        maskCol ≤ col + c ∧ has s.rows r (col + c - maskCol) = true := fun r c hmark =>
      (mem_iff_has hmem r c).1 (hsub ⟨r, c, hmark, rfl⟩)
    obtain ⟨hheight, hle, hwidth⟩ := h.tight.room hstencil hfits
    rw [if_neg (by rw [height]; omega)]
    obtain ⟨cut, hcut⟩ : ∃ cut, cutRows (col - maskCol) s.rows stencil = some cut := by
      refine exists_cutRows hheight fun r c hmark => ?_
      rw [show c + (col - maskCol) = col + c - maskCol by omega]
      exact (hfits r c hmark).2
    obtain ⟨hkeep, hcells⟩ := cutRows_spec hcut
    refine ⟨hsub, crop ⟨cut, s.top⟩, by rw [hcut, Option.map_some], ?_⟩
    apply remains_crop (hkeep _ h.tight.rectangular)
      (Nat.lt_of_le_of_lt (Nat.zero_le col) (h.tight.lt_of_has hcol.1).2)
    show ∀ x, x ∈ S \ laid stencil maskCol ⟨s.top, left + col⟩ ↔
      ∃ r c : Nat, has cut r c = true ∧ (⟨s.top + r, left + c⟩ : Hex) = x
    intro x
    constructor
    · rintro ⟨hx, hnot⟩
      obtain ⟨r, c, hmark, rfl⟩ := (hmem x).1 hx
      rw [mem_laid_iff hle] at hnot
      exact ⟨r, c, (hcells r c).2.2 ⟨hmark, hnot⟩, rfl⟩
    · rintro ⟨r, c, hcell, rfl⟩
      obtain ⟨hmark, hnot⟩ := (hcells r c).2.1 hcell
      rw [← mem_laid_iff hle] at hnot
      exact ⟨(hmem _).2 ⟨r, c, hmark, rfl⟩, hnot⟩
  · right
    refine ⟨hsub, ?_⟩
    split
    · rfl
    · rename_i hguard
      -- If something were cut out, it would belong to the set.
      cases hcut : cutRows (col - maskCol) s.rows stencil with
      | none => rfl
      | some cut =>
        refine absurd ?_ hsub
        rintro _ ⟨r, c, hmark, rfl⟩
        refine (mem_iff_has hmem r c).2 ⟨by omega, ?_⟩
        have hcovered := ((cutRows_spec hcut).2 r c).1 hmark
        rwa [show col + c - maskCol = c + (col - maskCol) by omega]

end Silhouette

end Formicary
