import Formicary.Proofs.Region.Silhouette
import Mathlib.Data.List.DropRight
import Mathlib.Data.Set.Card

/-!
# Cropping

A picture is cropped at its four sides, one after the other. Each time the cells that are left are
all the cells there were, but a number of lines and columns before them are gone
(`Silhouette.Trimmed`).

* `Silhouette.crop_spec`: a picture with a cell is cropped to a tight picture;
* `Silhouette.crop_blank`: a picture without a cell is cropped to nothing;
* `Silhouette.Trimmed.ncard_marks`: no cell is gained or lost.
-/

namespace Formicary

namespace Silhouette

variable {rows rows' rows'' before after : List (List Bool)} {row : List Bool}
  {width top n m n' m' r c : Nat}

/-- One picture is what another one becomes when its first `n` lines and its first `m` columns are
removed, which had no cells. On the other two sides there may be less of it as well. -/
def Trimmed (rows rows' : List (List Bool)) (n m : Nat) : Prop :=
  ∀ r c, has rows r c = true ↔ n ≤ r ∧ m ≤ c ∧ has rows' (r - n) (c - m) = true

theorem Trimmed.has_iff (h : Trimmed rows rows' n m) :
    has rows' r c = true ↔ has rows (r + n) (c + m) = true := by
  rw [h, Nat.add_sub_cancel, Nat.add_sub_cancel]
  exact ⟨fun hhas => ⟨Nat.le_add_left .., Nat.le_add_left .., hhas⟩, fun hhas => hhas.2.2⟩

theorem Trimmed.trans (h : Trimmed rows rows' n m) (h' : Trimmed rows' rows'' n' m') :
    Trimmed rows rows'' (n + n') (m + m') := by
  intro r c
  rw [h, h', Nat.sub_sub, Nat.sub_sub]
  constructor
  · rintro ⟨hr, hc, hr', hc', hhas⟩
    exact ⟨by omega, by omega, hhas⟩
  · rintro ⟨hr, hc, hhas⟩
    exact ⟨by omega, by omega, by omega, by omega, hhas⟩

/-! ### Counting -/

/-- The places of a picture that are cells. -/
def marks (rows : List (List Bool)) : Set (Nat × Nat) :=
  {place | has rows place.1 place.2 = true}

theorem Rectangular.marks_eq (hrect : Rectangular rows width) :
    marks rows = ((shown rows width).toFinset : Set (Nat × Nat)) := by
  ext ⟨r, c⟩
  rw [Finset.mem_coe, List.mem_toFinset, hrect.mem_shown_iff]
  rfl

theorem Rectangular.finite_marks (hrect : Rectangular rows width) : (marks rows).Finite := by
  rw [hrect.marks_eq]
  exact Finset.finite_toSet _

/-- The cells of a picture are counted place by place. -/
theorem Rectangular.cellCount_eq (hrect : Rectangular rows width) :
    cellCount ⟨rows, top⟩ = (marks rows).ncard := by
  rw [hrect.marks_eq, Set.ncard_coe_finset, List.toFinset_card_of_nodup (nodup_shown ..),
    hrect.length_shown, cellCount]

/-- Removing lines and columns without cells changes nothing in their number. -/
theorem Trimmed.ncard_marks (h : Trimmed rows rows' n m) :
    (marks rows').ncard = (marks rows).ncard := by
  have himage : marks rows = (fun place => (place.1 + n, place.2 + m)) '' marks rows' := by
    ext ⟨r, c⟩
    constructor
    · intro hhas
      obtain ⟨hr, hc, hhas'⟩ := (h r c).1 hhas
      refine ⟨(r - n, c - m), hhas', ?_⟩
      rw [Prod.mk.injEq]
      exact ⟨Nat.sub_add_cancel hr, Nat.sub_add_cancel hc⟩
    · rintro ⟨place, hhas', hplace⟩
      obtain ⟨rfl, rfl⟩ := Prod.mk.inj hplace
      exact h.has_iff.1 hhas'
  rw [himage, Set.ncard_image_of_injective]
  rintro ⟨r, c⟩ ⟨r', c'⟩ hplace
  simp only [Prod.mk.injEq] at hplace ⊢
  omega

/-! ### Lines -/

theorem not_mark_of_blank (hblank : row.any id = false) : row[c]? ≠ some true := by
  intro hmark
  exact List.any_eq_false.1 hblank true (List.mem_of_getElem? hmark) rfl

/-- A line that is not blank has a cell. -/
theorem exists_mark (h : row.any id = true) : ∃ c : Nat, row[c]? = some true := by
  obtain ⟨mark, hmem, hmark⟩ := List.any_eq_true.1 h
  obtain rfl : mark = true := hmark
  exact List.getElem?_of_mem hmem

theorem drop_length_takeWhile {α : Type} (p : α → Bool) (l : List α) :
    l.drop (l.takeWhile p).length = l.dropWhile p :=
  calc l.drop (l.takeWhile p).length
      = (l.takeWhile p ++ l.dropWhile p).drop (l.takeWhile p).length := by
        rw [List.takeWhile_append_dropWhile]
    _ = l.dropWhile p := List.drop_left

/-- Blank lines at the top can be removed. -/
theorem trimmed_append_left (hblank : ∀ row ∈ before, row.any id = false) :
    Trimmed (before ++ rows) rows before.length 0 := by
  intro r c
  by_cases hr : r < before.length
  · refine iff_of_false (fun hhas => ?_) (by omega)
    obtain ⟨row, hrow, hmark⟩ := has_eq_true_iff.1 hhas
    rw [List.getElem?_append_left hr] at hrow
    exact not_mark_of_blank (hblank row (List.mem_of_getElem? hrow)) hmark
  · have hle : before.length ≤ r := Nat.le_of_not_lt hr
    simp only [has, List.getD_append_right _ _ _ _ hle, hle, Nat.zero_le, Nat.sub_zero, true_and]

/-- Blank lines at the bottom can be removed. -/
theorem trimmed_append_right (hblank : ∀ row ∈ after, row.any id = false) :
    Trimmed (rows ++ after) rows 0 0 := by
  intro r c
  simp only [Nat.zero_le, Nat.sub_zero, true_and, has_eq_true_iff]
  by_cases hr : r < rows.length
  · rw [List.getElem?_append_left hr]
  · have hle : rows.length ≤ r := Nat.le_of_not_lt hr
    rw [List.getElem?_append_right hle, List.getElem?_eq_none hle]
    refine iff_of_false ?_ (by simp)
    rintro ⟨row, hrow, hmark⟩
    exact not_mark_of_blank (hblank row (List.mem_of_getElem? hrow)) hmark

theorem trimmed_dropTop (rows : List (List Bool)) :
    Trimmed rows (rows.dropWhile blankLine) (blankTop rows) 0 := by
  have hblank : ∀ row ∈ rows.takeWhile blankLine, row.any id = false := by
    intro row hrow
    have h := List.mem_takeWhile_imp hrow
    simp only [blankLine, Bool.and_eq_true, Bool.not_eq_true'] at h
    exact h.2
  have h : Trimmed (rows.takeWhile blankLine ++ rows.dropWhile blankLine)
      (rows.dropWhile blankLine) (rows.takeWhile blankLine).length 0 := trimmed_append_left hblank
  rwa [List.takeWhile_append_dropWhile] at h

/-- When the blank lines at the top are removed, the first line has a cell. -/
theorem exists_has_dropTop (hrect : Rectangular rows width) (hhas : has rows r c = true) :
    ∃ c, has (rows.dropWhile blankLine) 0 c = true := by
  obtain ⟨-, -, hleft⟩ := (trimmed_dropTop rows r c).1 hhas
  obtain ⟨-, hc⟩ := hrect.lt_of_has hhas
  have hfirst := List.head?_dropWhile_not blankLine rows
  have hsub : ∀ row ∈ rows.dropWhile blankLine, row ∈ rows := fun row hrow =>
    (List.dropWhile_sublist _).subset hrow
  cases hlines : rows.dropWhile blankLine with
  | nil => simp [hlines, has] at hleft
  | cons row others =>
    rw [hlines] at hfirst hsub
    -- The lines are not empty, so what stopped the search is a cell.
    have hne : row.isEmpty = false := by
      have hlength := hrect row (hsub row List.mem_cons_self)
      rw [List.isEmpty_eq_false_iff, ← List.length_pos_iff]
      omega
    have hcell : row.any id = true := by
      simp only [List.head?_cons, blankLine, hne, Bool.not_false, Bool.true_and,
        Bool.not_eq_false'] at hfirst
      exact hfirst
    obtain ⟨c₀, hmark⟩ := exists_mark hcell
    exact ⟨c₀, has_eq_true_iff.2 ⟨row, rfl, hmark⟩⟩

theorem cropBottom_eq (hhas : has rows 0 c = true) :
    cropBottom rows = rows.rdropWhile fun row => !row.any id := by
  have hne : (rows.headD []).isEmpty = false := by
    obtain ⟨row, hrow, hmark⟩ := has_eq_true_iff.1 hhas
    cases rows with
    | nil => simp at hrow
    | cons row' others =>
      obtain rfl : row' = row := Option.some.inj hrow
      rw [List.headD_cons, List.isEmpty_eq_false_iff]
      rintro rfl
      simp at hmark
  rw [cropBottom, hne, if_neg Bool.false_ne_true, List.rdropWhile]

/-- When the blank lines at the bottom are removed, nothing else is, and the last line has a
cell. -/
theorem cropBottom_spec (hhas : has rows 0 c = true) :
    cropBottom rows <+: rows ∧ Trimmed rows (cropBottom rows) 0 0 ∧
      ∃ c, has (cropBottom rows) ((cropBottom rows).length - 1) c = true := by
  rw [cropBottom_eq hhas]
  have hblank : ∀ row ∈ rows.rtakeWhile (fun row => !row.any id), row.any id = false := by
    intro row hrow
    simpa using List.mem_rtakeWhile_imp hrow
  have htrimmed : Trimmed
      (rows.rdropWhile (fun row => !row.any id) ++ rows.rtakeWhile fun row => !row.any id)
      (rows.rdropWhile fun row => !row.any id) 0 0 := trimmed_append_right hblank
  rw [List.rdropWhile_append_rtakeWhile] at htrimmed
  refine ⟨List.rdropWhile_prefix _ _, htrimmed, ?_⟩
  -- The first line has a cell, so not all lines are removed, and the last one left is not blank.
  have hne : rows.rdropWhile (fun row => !row.any id) ≠ [] := by
    intro hnil
    obtain ⟨-, -, hleft⟩ := (htrimmed 0 c).1 hhas
    simp [hnil, has] at hleft
  have hlast := List.rdropWhile_last_not (fun row : List Bool => !row.any id) rows hne
  simp only [Bool.not_eq_true', Bool.not_eq_false] at hlast
  obtain ⟨c₀, hmark⟩ := exists_mark hlast
  refine ⟨c₀, has_eq_true_iff.2 ⟨_, ?_, hmark⟩⟩
  rw [← List.getLast?_eq_getElem?, List.getLast?_eq_some_getLast hne]

/-! ### Columns -/

theorem has_map_drop : has (rows.map (·.drop m)) r c = has rows r (c + m) := by
  rw [Bool.eq_iff_iff, has_eq_true_iff, has_eq_true_iff]
  simp only [List.getElem?_map, Option.map_eq_some_iff, exists_exists_and_eq_and,
    List.getElem?_drop, Nat.add_comm]

/-- No line has a cell in the columns that are blank at the left. -/
theorem blankLeft_le (hhas : has rows r c = true) : blankLeft rows ≤ c := by
  obtain ⟨row, hrow, hmark⟩ := has_eq_true_iff.1 hhas
  have hmem := List.mem_map_of_mem (f := fun row : List Bool => (row.takeWhile (!·)).length)
    (List.mem_of_getElem? hrow)
  refine Nat.le_trans (List.min?_getD_le_of_mem hmem) (Nat.le_of_not_lt fun hlt => ?_)
  -- Before the first cell of the line there is none.
  have hblank := List.mem_takeWhile_imp (List.getElem_mem hlt)
  have hsame : row[c]? = some (row.takeWhile (!·))[c] := by
    rw [← List.getElem?_eq_getElem hlt]
    conv_lhs => rw [← List.takeWhile_append_dropWhile (p := (!·)) (l := row)]
    rw [List.getElem?_append_left hlt]
  rw [hmark, Option.some.injEq] at hsame
  simp [← hsame] at hblank

theorem trimmed_cropLeft (rows : List (List Bool)) :
    Trimmed rows (cropLeft rows) 0 (blankLeft rows) := by
  intro r c
  rw [cropLeft, has_map_drop, Nat.sub_zero]
  constructor
  · intro hhas
    have hle := blankLeft_le hhas
    rw [Nat.sub_add_cancel hle]
    exact ⟨Nat.zero_le r, hle, hhas⟩
  · rintro ⟨-, hle, hhas⟩
    rwa [Nat.sub_add_cancel hle] at hhas

theorem Rectangular.cropLeft (hrect : Rectangular rows width) :
    Rectangular (cropLeft rows) (width - blankLeft rows) := by
  intro row hrow
  obtain ⟨row', hrow', rfl⟩ := List.mem_map.1 hrow
  rw [List.length_drop, hrect row' hrow']

/-- When the blank columns at the left are removed, the first column has a cell. -/
theorem exists_has_cropLeft (hrect : Rectangular rows width) (hhas : has rows r c = true) :
    ∃ r, has (cropLeft rows) r 0 = true := by
  have hlt : blankLeft rows < width :=
    Nat.lt_of_le_of_lt (blankLeft_le hhas) (hrect.lt_of_has hhas).2
  -- Some line begins with as many blank places as there are blank columns.
  obtain ⟨row, hrow, hlength⟩ :
      ∃ row ∈ rows, (row.takeWhile (!·)).length = blankLeft rows := by
    have hne : (rows.map fun row => (row.takeWhile (!·)).length) ≠ [] := by
      rintro hnil
      obtain ⟨row, hrow, -⟩ := has_eq_true_iff.1 hhas
      simp [List.map_eq_nil_iff.1 hnil] at hrow
    obtain ⟨least, hleast⟩ := Option.isSome_iff_exists.1 (List.isSome_min?_of_ne_nil hne)
    obtain ⟨row, hrow, hmin⟩ := List.mem_map.1 (List.min?_mem hleast)
    exact ⟨row, hrow, by rw [hmin, blankLeft, hleast, Option.getD_some]⟩
  obtain ⟨r₀, hr₀⟩ := List.getElem?_of_mem hrow
  refine ⟨r₀, (trimmed_cropLeft rows).has_iff.2 (has_eq_true_iff.2 ⟨row, hr₀, ?_⟩)⟩
  rw [Nat.zero_add, ← hlength]
  -- The place behind them is a cell.
  have hrest : (row.takeWhile (!·)).length < row.length := by
    rw [hlength, hrect row hrow]
    exact hlt
  have hfirst := List.head?_dropWhile_not (!·) row
  have hbehind := drop_length_takeWhile (!·) row
  rw [← List.head?_drop, hbehind]
  cases hlines : row.dropWhile (!·) with
  | nil =>
    rw [hlines, List.drop_eq_nil_iff] at hbehind
    omega
  | cons mark marks =>
    rw [hlines] at hfirst
    simpa using hfirst

theorem Rectangular.mirror (hrect : Rectangular rows width) :
    Rectangular (rows.map List.reverse) width := by
  intro row hrow
  obtain ⟨row', hrow', rfl⟩ := List.mem_map.1 hrow
  rw [List.length_reverse, hrect row' hrow']

/-- In a mirror the columns are counted from the other side. -/
theorem Rectangular.has_mirror (hrect : Rectangular rows width) (hc : c < width) :
    has (rows.map List.reverse) r c = has rows r (width - 1 - c) := by
  rw [Bool.eq_iff_iff, has_eq_true_iff, has_eq_true_iff]
  simp only [List.getElem?_map, Option.map_eq_some_iff, exists_exists_and_eq_and]
  refine exists_congr fun row => and_congr_right fun hrow => ?_
  have hlength := hrect row (List.mem_of_getElem? hrow)
  rw [List.getElem?_reverse (by omega), hlength]

theorem Rectangular.has_mirror_of_has (hrect : Rectangular rows width)
    (hhas : has rows r c = true) : has (rows.map List.reverse) r (width - 1 - c) = true := by
  have hc := (hrect.lt_of_has hhas).2
  rw [hrect.has_mirror (by omega), show width - 1 - (width - 1 - c) = c by omega]
  exact hhas

/-- When the blank columns at the right are removed, nothing else is, and the last column has a
cell. -/
theorem cropRight_spec (hrect : Rectangular rows width) (hhas : has rows r c = true) :
    ∃ width', Rectangular (cropRight rows) width' ∧ Trimmed rows (cropRight rows) 0 0 ∧
      ∃ r, has (cropRight rows) r (width' - 1) = true := by
  let blank := blankLeft (rows.map List.reverse)
  have hleft : Rectangular (cropLeft (rows.map List.reverse)) (width - blank) :=
    hrect.mirror.cropLeft
  have htrimmed : Trimmed (rows.map List.reverse) (cropLeft (rows.map List.reverse)) 0 blank :=
    trimmed_cropLeft _
  -- All cells lie in the columns that are left.
  have hlt : ∀ {r c}, has rows r c = true → c < width - blank := by
    intro r c hhas
    have hc := (hrect.lt_of_has hhas).2
    have hle := ((htrimmed _ _).1 (hrect.has_mirror_of_has hhas)).2.1
    omega
  have hkept : ∀ r c, c < width - blank → has (cropRight rows) r c = has rows r c := by
    intro r c hc
    rw [cropRight, hleft.has_mirror hc, Bool.eq_iff_iff, htrimmed.has_iff,
      hrect.has_mirror (by omega), show width - 1 - (width - blank - 1 - c + blank) = c by omega]
    rfl
  have hright : Rectangular (cropRight rows) (width - blank) := hleft.mirror
  refine ⟨width - blank, hright, fun r c => ?_, ?_⟩
  · simp only [Nat.zero_le, Nat.sub_zero, true_and]
    constructor
    · intro hhas
      rwa [hkept r c (hlt hhas)]
    · intro hhas
      rwa [hkept r c (hright.lt_of_has hhas).2] at hhas
  · have hc := hlt hhas
    obtain ⟨r₀, hfirst⟩ := exists_has_cropLeft hrect.mirror (hrect.has_mirror_of_has hhas)
    refine ⟨r₀, ?_⟩
    rw [cropRight, hleft.has_mirror (by omega), Nat.sub_self]
    exact hfirst

/-! ### All four sides -/

/-- A picture with a cell is cropped to a tight picture with the same cells. The row of the first
line grows by the number of lines removed above it. -/
theorem crop_spec (hrect : Rectangular rows width) (hhas : has rows r c = true) (top : Nat) :
    ∃ rows' width' n m, crop ⟨rows, top⟩ = ⟨rows', top + n⟩ ∧ Tight rows' width' ∧
      Trimmed rows rows' n m := by
  have htrim₁ := trimmed_dropTop rows
  obtain ⟨c₁, htop⟩ := exists_has_dropTop hrect hhas
  have hrect₁ : Rectangular (rows.dropWhile blankLine) width := fun row hrow =>
    hrect row ((List.dropWhile_sublist _).subset hrow)
  obtain ⟨hkept₂, htrim₂, c₂, hbottom⟩ := cropBottom_spec htop
  have hrect₂ : Rectangular (cropBottom (rows.dropWhile blankLine)) width := fun row hrow =>
    hrect₁ row (hkept₂.subset hrow)
  rw [htrim₂] at htop
  have htrim₃ := trimmed_cropLeft (cropBottom (rows.dropWhile blankLine))
  obtain ⟨r₃, hleft⟩ := exists_has_cropLeft hrect₂ hbottom
  obtain ⟨width', hrect₄, htrim₄, r₄, hright⟩ := cropRight_spec hrect₂.cropLeft hleft
  -- What one step finds at its side is still there after the later ones.
  have hkept := htrim₃.trans htrim₄
  have hlength : (cropRight (cropLeft (cropBottom (rows.dropWhile blankLine)))).length =
      (cropBottom (rows.dropWhile blankLine)).length := by
    simp only [cropRight, cropLeft, List.length_map]
  obtain ⟨-, -, htop'⟩ := (hkept _ _).1 htop.2.2
  obtain ⟨-, -, hbottom'⟩ := (hkept _ _).1 hbottom
  obtain ⟨-, -, hleft'⟩ := (htrim₄ _ _).1 hleft
  simp only [Nat.sub_zero, Nat.add_zero] at htop' hbottom' hleft'
  rw [← hlength] at hbottom'
  refine ⟨_, width', blankTop rows, _, ?_, ?_, (htrim₁.trans htrim₂).trans hkept⟩
  · rw [crop, blankTop, drop_length_takeWhile]
  · exact {
      length_eq := hrect₄
      top := ⟨_, (hrect₄.lt_of_has htop').2, htop'⟩
      bottom := ⟨_, (hrect₄.lt_of_has hbottom').2, hbottom'⟩
      left := ⟨_, (hrect₄.lt_of_has hleft').1, hleft'⟩
      right := ⟨_, (hrect₄.lt_of_has hright).1, hright⟩ }

/-- A picture without a cell is cropped to nothing, if its lines have places. -/
theorem crop_blank (hrect : Rectangular rows width) (hwidth : 0 < width)
    (hblank : marks rows = ∅) (top : Nat) : crop ⟨rows, top⟩ = ⟨[], top + rows.length⟩ := by
  have hlines : ∀ row ∈ rows, blankLine row = true := by
    intro row hrow
    have hne : row.isEmpty = false := by
      rw [List.isEmpty_eq_false_iff, ← List.length_pos_iff, hrect row hrow]
      exact hwidth
    have hany : row.any id = false := by
      rw [← Bool.not_eq_true]
      intro hcell
      obtain ⟨r, hr⟩ := List.getElem?_of_mem hrow
      obtain ⟨c, hmark⟩ := exists_mark hcell
      have hmem : (r, c) ∈ marks rows := has_eq_true_iff.2 ⟨row, hr, hmark⟩
      simp [hblank] at hmem
    rw [blankLine, hne, hany]
    rfl
  have htop : blankTop rows = rows.length := by
    rw [blankTop, List.takeWhile_eq_self_iff.2 hlines]
  rw [crop, htop]
  simp only [List.drop_length]
  rfl

end Silhouette

end Formicary
