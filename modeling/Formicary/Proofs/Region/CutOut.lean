import Formicary.Proofs.Region.Overlay

/-!
# What a stencil takes away

A stencil that is laid over a picture takes its own cells away and no others, whatever is left of
the picture (`Silhouette.overlay_exact`).

* `Silhouette.Fits`: the box of a stencil lies in the box of a picture, and all its cells on cells
  of the picture;
* `Silhouette.overlay_eq_some_iff`: a stencil that fits is cut out, and the rest is cropped;
* `Silhouette.exists_trimmed_crop`: a picture is cropped to a tight one or to nothing, and the row
  of its first line grows by the number of lines that are dropped at the top;
* `Silhouette.CutOut`: what a picture and what is left of it have to do with each other.
-/

namespace Formicary

namespace Silhouette

variable {s rest : Silhouette} {rows cut : List (List Bool)} {stencil : Stencil}
  {width width' maskCol offset r c : Nat}

/-- A stencil that is moved to the right by an offset fits into a picture. -/
structure Fits (rows : List (List Bool)) (width : Nat) (stencil : Stencil) (width' offset : Nat) :
    Prop where
  /-- There are lines enough. -/
  height_le : stencil.length ≤ rows.length
  /-- There are columns enough. -/
  width_le : offset + width' ≤ width
  /-- All its cells lie on cells. -/
  has_of_has : ∀ r c, has stencil r c = true → has rows r (c + offset) = true

/-- A cell of a stencil that is moved to the right by an offset lies on a place. -/
def Covers (stencil : Stencil) (offset r c : Nat) : Prop :=
  offset ≤ c ∧ has stencil r (c - offset) = true

/-- A picture is left when a stencil has been cut out of another one, and some lines at the top and
some columns at the left have been dropped. -/
structure CutOut (s : Silhouette) (stencil : Stencil) (offset : Nat) (rest : Silhouette)
    (dropped shift : Nat) : Prop where
  /-- The row of the first line has grown by the number of lines that are dropped. -/
  top_eq : rest.top = s.top + dropped
  /-- The cells that are not covered are left, on their rows and in their columns. -/
  has_iff : ∀ r c, (has s.rows r c = true ∧ ¬Covers stencil offset r c) ↔
    dropped ≤ r ∧ shift ≤ c ∧ has rest.rows (r - dropped) (c - shift) = true
  /-- There are as many cells fewer as the stencil has. -/
  cellCount_eq : rest.cellCount + stencil.flatten.count true = s.cellCount
  /-- All lines are dropped, or no line and no column at the edges is blank. -/
  tight : (rest.rows = [] ∧ dropped = s.height) ∨ ∃ width, Tight rest.rows width

/-! ### Cropping -/

/-- Cropping drops lines at the top and columns at the left, and all lines if there is no cell. What
is left is tight otherwise. -/
theorem exists_trimmed_crop (hrect : Rectangular rows width) (hwidth : 0 < width) (top : Nat) :
    ∃ n m, (crop ⟨rows, top⟩).top = top + n ∧ Trimmed rows (crop ⟨rows, top⟩).rows n m ∧
      (((crop ⟨rows, top⟩).rows = [] ∧ n = rows.length) ∨
        ∃ width', Tight (crop ⟨rows, top⟩).rows width') := by
  rcases Set.eq_empty_or_nonempty (marks rows) with hempty | ⟨⟨r, c⟩, hhas⟩
  · -- Neither the picture nor what is left of it has a cell.
    rw [crop_blank hrect hwidth hempty]
    refine ⟨rows.length, 0, rfl, fun r c => iff_of_false (fun hhas => ?_) (by simp [has]), ?_⟩
    · have hmem : (r, c) ∈ marks rows := hhas
      simp [hempty] at hmem
    · exact .inl ⟨rfl, rfl⟩
  · obtain ⟨rows', width', n, m, hcrop, htight, htrimmed⟩ := crop_spec hrect hhas top
    rw [hcrop]
    exact ⟨n, m, rfl, htrimmed, .inr ⟨width', htight⟩⟩

/-! ### Cutting -/

theorem length_of_cutRows (h : cutRows offset rows stencil = some cut) :
    cut.length = rows.length := by
  fun_induction cutRows offset rows stencil generalizing cut with
  | case1 rows =>
    obtain rfl := Option.some.inj h
    rfl
  | case2 => cases h
  | case3 row rows mask stencil row' rows' hrows hrow ih =>
    obtain rfl := Option.some.inj h
    exact congrArg (· + 1) (ih hrows)
  | case4 => cases h

/-- A stencil fits if and only if it can be cut out and its box lies in the box of the picture. -/
theorem fits_iff : Fits rows width stencil width' offset ↔
    (stencil.length ≤ rows.length ∧ offset + width' ≤ width) ∧
      ∃ cut, cutRows offset rows stencil = some cut := by
  constructor
  · rintro ⟨hheight, hwidth, hhas⟩
    exact ⟨⟨hheight, hwidth⟩, exists_cutRows hheight hhas⟩
  · rintro ⟨⟨hheight, hwidth⟩, cut, hcut⟩
    exact ⟨hheight, hwidth, fun r c => ((cutRows_spec hcut).2 r c).1⟩

/-- A stencil is cut out if it fits when its first cell lies on the first cell of the picture, and
then the rest is cropped. -/
theorem overlay_eq_some_iff (hrect : Rectangular s.rows width)
    (hstencil : Rectangular stencil width') (hmask : FirstMark stencil maskCol) :
    s.overlay stencil = some rest ↔
      ∃ offset cut, FirstMark s.rows (offset + maskCol) ∧
        (stencil.length ≤ s.height ∧ offset + width' ≤ width) ∧
          cutRows offset s.rows stencil = some cut ∧ crop ⟨cut, s.top⟩ = rest := by
  have hlength : Silhouette.width ⟨stencil, 0⟩ = width' := hstencil.width_eq hmask.1
  have hline : (stencil.headD []).length = width' := hlength
  constructor
  · intro h
    -- Without a cell on the first line nothing would have been cut out.
    obtain ⟨-, -, c, hhas, -⟩ := exists_cut_of_overlay h
    obtain ⟨col, hcol⟩ := exists_firstMark hhas
    have hwidth : s.width = width := hrect.width_eq hhas
    rw [overlay_eq hcol hmask, hline, hwidth] at h
    obtain ⟨hguard, hcut⟩ := Option.ite_none_left_eq_some.1 h
    obtain ⟨cut, hcut, hrest⟩ := Option.map_eq_some_iff.1 hcut
    -- The guards say that the offset is not negative.
    have hle : maskCol ≤ col := by omega
    refine ⟨col - maskCol, cut, ?_, by omega, hcut, hrest⟩
    rwa [Nat.sub_add_cancel hle]
  · rintro ⟨offset, cut, hcol, hroom, hcut, rfl⟩
    have hwidth : s.width = width := hrect.width_eq hcol.1
    rw [overlay_eq hcol hmask, hline, hwidth, Nat.add_sub_cancel, if_neg (by omega), hcut,
      Option.map_some]

/-! ### What is left -/

/-- What is left when a stencil has been cut out and the rest has been cropped. -/
theorem exists_cutOut (hrect : Rectangular s.rows width) (hwidth : 0 < width)
    (hcut : cutRows offset s.rows stencil = some cut)
    (hcount : (crop ⟨cut, s.top⟩).cellCount + stencil.flatten.count true = s.cellCount) :
    ∃ dropped shift, CutOut s stencil offset (crop ⟨cut, s.top⟩) dropped shift := by
  obtain ⟨hkeep, hcells⟩ := cutRows_spec hcut
  obtain ⟨dropped, shift, htop, htrimmed, htight⟩ :=
    exists_trimmed_crop (hkeep width hrect) hwidth s.top
  have hheight : cut.length = s.height := length_of_cutRows hcut
  rw [hheight] at htight
  exact ⟨dropped, shift, htop, fun r c => (hcells r c).2.symm.trans (htrimmed r c), hcount, htight⟩

/-- A stencil is laid over a rectangular picture so that the first cells of their first lines
coincide. There is a result if and only if the picture has a first cell and the stencil fits. Then
exactly the cells of the stencil are gone: all others are on their rows, and in their columns but
for those that have been dropped, and there is no blank line or column at the edges. -/
theorem overlay_exact (s : Silhouette) (stencil : Stencil) (width width' maskCol : Nat)
    (hrect : Rectangular s.rows width) (hstencil : Rectangular stencil width')
    (hmask : FirstMark stencil maskCol) :
    ((s.overlay stencil).isSome = true ↔
      ∃ offset, FirstMark s.rows (offset + maskCol) ∧ Fits s.rows width stencil width' offset) ∧
    ∀ rest, s.overlay stencil = some rest →
      ∃ offset dropped shift, FirstMark s.rows (offset + maskCol) ∧
        CutOut s stencil offset rest dropped shift := by
  constructor
  · simp only [Option.isSome_iff_exists, overlay_eq_some_iff hrect hstencil hmask, fits_iff]
    constructor
    · rintro ⟨rest, offset, cut, hcol, hroom, hcut, -⟩
      exact ⟨offset, hcol, hroom, cut, hcut⟩
    · rintro ⟨offset, hcol, hroom, cut, hcut⟩
      exact ⟨_, offset, cut, hcol, hroom, hcut, rfl⟩
  · intro rest h
    have hcount := (cellCount_overlay hrect hstencil h).2
    obtain ⟨offset, cut, hcol, -, hcut, rfl⟩ := (overlay_eq_some_iff hrect hstencil hmask).1 h
    have hwidth : 0 < width := Nat.lt_of_le_of_lt (Nat.zero_le _) (hrect.lt_of_has hcol.1).2
    obtain ⟨dropped, shift, hcutOut⟩ := exists_cutOut hrect hwidth hcut hcount
    exact ⟨offset, dropped, shift, hcol, hcutOut⟩

/-- A square is cut out of a corner, after which a line is dropped at the top and a column at the
left. Nothing is left of the square itself, and a stencil that would reach beyond its left side does
not fit into it. -/
theorem overlay_exact_corner :
    let s := ofPicture ["xx..", "xxx.", "..xx"] 4
    let stencil := Stencil.ofPicture ["xx", "xx"]
    (∃ offset dropped shift, FirstMark s.rows (offset + 0) ∧
      CutOut s stencil offset (ofPicture ["x.", "xx"] 5) dropped shift) ∧
    (∃ offset dropped shift, FirstMark stencil (offset + 0) ∧
      CutOut ⟨stencil, 2⟩ stencil offset ⟨[], 4⟩ dropped shift) ∧
    ¬∃ offset, FirstMark stencil (offset + 1) ∧
      Fits stencil 2 (Stencil.ofPicture [".x", "xx"]) 2 offset := by
  intro s stencil
  have hmask : FirstMark stencil 0 := ⟨by decide, nofun⟩
  have hlate : FirstMark (Stencil.ofPicture [".x", "xx"]) 1 := ⟨by decide, by decide⟩
  refine ⟨?_, ?_, ?_⟩
  · exact (overlay_exact s stencil 4 2 0 (by decide) (by decide) hmask).2 _ (by decide)
  · exact (overlay_exact ⟨stencil, 2⟩ stencil 2 2 0 (by decide) (by decide) hmask).2 _ (by decide)
  · intro hfits
    have hsome := (overlay_exact ⟨stencil, 2⟩ _ 2 2 1 (by decide) (by decide) hlate).1.2 hfits
    exact absurd hsome (by decide)

end Silhouette

end Formicary
