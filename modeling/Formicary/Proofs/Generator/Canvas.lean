import Formicary.Proofs.Generator.Stamp

/-!
# What is painted

A stamp that is put down paints the cells of its body and no others, and all its places are free
before (`Canvas.superimpose_spec`). On a canvas without wet rock this makes a painted set of cells
that were clear (`Canvas.Painted`), and a stamp with a margin keeps it apart from all that is
painted already (`Canvas.Isolated`).
-/

namespace Formicary

namespace Canvas

/-- There is paint for every cell of the frame. -/
def WellFormed (canvas : Canvas) : Prop := canvas.cells.size = canvas.height * canvas.width

/-- The paint on a cell, or nothing outside the canvas. -/
def paint? (canvas : Canvas) (h : Hex) : Option Paint :=
  match canvas.index? h with
  | some i => canvas.cells[i]?
  | none => none

/-- The cell on which a place of a stamp lands. -/
def landed (corner : Hex) (place : Nat × Nat × StampPart) : Hex :=
  ⟨(landing corner place.1 place.2.1).1, (landing corner place.1 place.2.1).2⟩

variable {canvas canvas' : Canvas} {stamp : Stamp} {corner x : Hex} {paint : Paint} {row col : Nat}

theorem WellFormed.lt_size (hcanvas : canvas.WellFormed) {i : Nat}
    (hi : canvas.index? x = some i) : i < canvas.cells.size := by
  rw [hcanvas]
  exact Frame.lt_of_index? hi

/-- Within the frame a row and a column have the number by which paint is looked up. -/
theorem index?_of_contains (hcontains : canvas.Contains ⟨row, col⟩) :
    canvas.index? ⟨row, col⟩ = some (row * canvas.width + col) :=
  Frame.index?_eq_some_iff.2 ⟨hcontains, rfl⟩

theorem paint?_eq_paintAt (hcanvas : canvas.WellFormed) (hcontains : canvas.Contains ⟨row, col⟩) :
    canvas.paint? ⟨row, col⟩ = some (canvas.paintAt row col) := by
  have hi := index?_of_contains hcontains
  have hlt := hcanvas.lt_size hi
  rw [paint?, hi]
  simp [paintAt, hlt]

/-- Painting a cell does not change the shape of the canvas. -/
theorem wellFormed_paintCell (hcanvas : canvas.WellFormed) :
    (canvas.paintCell row col paint).WellFormed := by
  rw [WellFormed, paintCell, Array.size_setIfInBounds]
  exact hcanvas

/-- Painting a cell changes the paint on this cell and on no other one. -/
theorem paint?_paintCell (hcanvas : canvas.WellFormed) (hcontains : canvas.Contains ⟨row, col⟩) :
    (canvas.paintCell row col paint).paint? x =
      if x = ⟨row, col⟩ then some paint else canvas.paint? x := by
  have hi := index?_of_contains hcontains
  have hlt := hcanvas.lt_size hi
  have hframe : (canvas.paintCell row col paint).index? x = canvas.index? x := rfl
  rw [paint?, paint?, hframe]
  cases hx : canvas.index? x with
  | none =>
    have hne : x ≠ ⟨row, col⟩ := by
      rintro rfl
      rw [hi] at hx
      cases hx
    rw [if_neg hne]
  | some j =>
    simp only [paintCell, Array.getElem?_setIfInBounds]
    by_cases hij : row * canvas.width + col = j
    · subst hij
      have hsame : x = ⟨row, col⟩ :=
        (Frame.hex_of_index? hx).symm.trans (Frame.hex_of_index? hi)
      rw [if_pos rfl, if_pos hlt, if_pos hsame]
    · have hne : x ≠ ⟨row, col⟩ := by
        rintro rfl
        exact hij (Option.some.inj (hi.symm.trans hx))
      rw [if_neg hij, if_neg hne]

/-! ### Stamps -/

theorem hasRoom_iff : canvas.hasRoom stamp corner = true ↔ (0 ≤ corner.row ∧ 0 ≤ corner.col) ∧
    (stamp.length ≤ canvas.height - corner.row ∧ stamp.width ≤ canvas.width - corner.col) ∧
    (corner.row % 2 = 1 ∨ corner.col ≠ 0) := by
  simp only [hasRoom, Bool.and_eq_true, decide_eq_true_eq, Bool.or_eq_true, and_assoc]

/-- Where there is room for a stamp, all its places land inside the canvas, each where its vector
leads. -/
theorem landed_of_hasRoom (hstamp : stamp.Rectangular) (hroom : canvas.hasRoom stamp corner = true)
    {r c : Nat} {part : StampPart} (hplace : (r, c, part) ∈ stamp.places) :
    canvas.Contains (landed corner (r, c, part)) ∧
      landed corner (r, c, part) = corner.move (Stamp.vector r c) := by
  obtain ⟨hr, hc⟩ := Stamp.lt_of_mem_places hstamp hplace
  obtain ⟨⟨hrow, hcol⟩, ⟨hheight, hwidth⟩, hparity⟩ := hasRoom_iff.1 hroom
  refine ⟨?_, Stamp.landing_eq hrow hcol (by omega)⟩
  simp only [landed, landing, Frame.Contains]
  refine ⟨by omega, by omega, by omega, ?_⟩
  split <;> omega

/-- Paint one place of a stamp, if it belongs to the body. -/
def paintPlace (corner : Hex) (paint : Paint) (canvas : Canvas)
    (place : Nat × Nat × StampPart) : Canvas :=
  if place.2.2 = .body then
    canvas.paintCell (landing corner place.1 place.2.1).1 (landing corner place.1 place.2.1).2 paint
  else canvas

theorem paintBody_eq_foldl (canvas : Canvas) (stamp : Stamp) (corner : Hex) (paint : Paint) :
    canvas.paintBody stamp corner paint = stamp.places.foldl (paintPlace corner paint) canvas := rfl

/-- Painting a place paints at most the cell on which it lands. -/
theorem paintPlace_spec (paint : Paint) (hcanvas : canvas.WellFormed)
    {place : Nat × Nat × StampPart} (hinside : canvas.Contains (landed corner place)) :
    (paintPlace corner paint canvas place).toFrame = canvas.toFrame ∧
      (paintPlace corner paint canvas place).WellFormed ∧
      ∀ x, (paintPlace corner paint canvas place).paint? x =
        if place.2.2 = .body ∧ landed corner place = x then some paint else canvas.paint? x := by
  rw [paintPlace]
  by_cases hbody : place.2.2 = .body
  · rw [if_pos hbody]
    refine ⟨rfl, wellFormed_paintCell hcanvas, fun x => ?_⟩
    rw [paint?_paintCell hcanvas hinside]
    simp only [hbody, true_and, eq_comm (a := x)]
    rfl
  · rw [if_neg hbody]
    exact ⟨rfl, hcanvas, fun x => (if_neg fun h => hbody h.1).symm⟩

/-- Painting places one after the other paints the cells on which those of the body land. -/
theorem foldl_paintPlace (paint : Paint) {places : List (Nat × Nat × StampPart)}
    (hcanvas : canvas.WellFormed)
    (hinside : ∀ place ∈ places, canvas.Contains (landed corner place)) :
    (places.foldl (paintPlace corner paint) canvas).toFrame = canvas.toFrame ∧
      (places.foldl (paintPlace corner paint) canvas).WellFormed ∧
      ∀ x, ((∃ place ∈ places, place.2.2 = .body ∧ landed corner place = x) →
          (places.foldl (paintPlace corner paint) canvas).paint? x = some paint) ∧
        ((¬∃ place ∈ places, place.2.2 = .body ∧ landed corner place = x) →
          (places.foldl (paintPlace corner paint) canvas).paint? x = canvas.paint? x) := by
  induction places generalizing canvas with
  | nil => exact ⟨rfl, hcanvas, fun x => ⟨by simp, fun _ => rfl⟩⟩
  | cons place places ih =>
    obtain ⟨hframe, hcanvas', hplace⟩ :=
      paintPlace_spec paint hcanvas (hinside place List.mem_cons_self)
    obtain ⟨hframe', hcanvas'', hrest⟩ := ih hcanvas' fun place' hplace' => by
      rw [hframe]
      exact hinside place' (List.mem_cons_of_mem place hplace')
    rw [List.foldl_cons]
    refine ⟨hframe'.trans hframe, hcanvas'', fun x => ?_⟩
    simp only [List.mem_cons, exists_eq_or_imp]
    -- All places are painted alike, so it makes no difference which of them comes last.
    by_cases hlater : ∃ place ∈ places, place.2.2 = .body ∧ landed corner place = x
    · exact ⟨fun _ => (hrest x).1 hlater, fun hnone => absurd (Or.inr hlater) hnone⟩
    · rw [(hrest x).2 hlater, hplace]
      constructor
      · rintro (hfirst | hlater')
        · exact if_pos hfirst
        · exact absurd hlater' hlater
      · exact fun hnone => if_neg fun hfirst => hnone (Or.inl hfirst)

/-- The cells that a stamp covers when its corner is put on a cell: those on which its places
land that are no gaps. -/
def covered (stamp : Stamp) (corner : Hex) : Set Hex :=
  {x | ∃ place ∈ stamp.places, landed corner place = x}

/-- The cells on which the places of the body land. -/
def coveredByBody (stamp : Stamp) (corner : Hex) : Set Hex :=
  {x | ∃ place ∈ stamp.places, place.2.2 = .body ∧ landed corner place = x}

/-- A stamp is put down: it covers free cells of the canvas, and exactly the cells of its body are
painted. -/
structure PutDown (canvas canvas' : Canvas) (stamp : Stamp) (corner : Hex) (paint : Paint) :
    Prop where
  /-- All cells covered lie inside the canvas. -/
  inside : ∀ x ∈ covered stamp corner, canvas.Contains x
  /-- All cells covered were clear ground or wet rock. -/
  was_free : ∀ x ∈ covered stamp corner,
    canvas.paint? x = some (.dry .clear) ∨ canvas.paint? x = some .wetRock
  /-- The canvas keeps its extent. -/
  frame_eq : canvas'.toFrame = canvas.toFrame
  /-- The canvas keeps its shape. -/
  wellFormed : canvas'.WellFormed
  /-- The body is painted. -/
  painted : ∀ x ∈ coveredByBody stamp corner, canvas'.paint? x = some paint
  /-- All other cells are left alone. -/
  unchanged : ∀ x, x ∉ coveredByBody stamp corner → canvas'.paint? x = canvas.paint? x

theorem isFree_iff : paint.isFree = true ↔ paint = .dry .clear ∨ paint = .wetRock := by
  cases paint with
  | dry tile => simp [Paint.isFree]
  | wetRock => simp [Paint.isFree]

theorem superimpose_eq_some (h : canvas.superimpose stamp corner paint = some canvas') :
    canvas.hasRoom stamp corner = true ∧ canvas.isFreeFor stamp corner = true ∧
      canvas.paintBody stamp corner paint = canvas' := by
  rw [superimpose] at h
  obtain ⟨htest, hsome⟩ := Option.ite_none_right_eq_some.1 h
  obtain ⟨hroom, hfree⟩ := Bool.and_eq_true_iff.1 htest
  exact ⟨hroom, hfree, Option.some.inj hsome⟩

/-- A stamp that is accepted is put down. -/
theorem putDown_of_superimpose (hcanvas : canvas.WellFormed) (hstamp : stamp.Rectangular)
    (h : canvas.superimpose stamp corner paint = some canvas') :
    PutDown canvas canvas' stamp corner paint := by
  obtain ⟨hroom, hfree, rfl⟩ := superimpose_eq_some h
  have hinside : ∀ place ∈ stamp.places, canvas.Contains (landed corner place) :=
    fun place hplace => (landed_of_hasRoom hstamp hroom hplace).1
  obtain ⟨hframe, hcanvas', hpainted⟩ := foldl_paintPlace paint hcanvas hinside
  rw [paintBody_eq_foldl]
  refine ⟨?_, ?_, hframe, hcanvas', fun x hx => (hpainted x).1 hx, fun x hx => (hpainted x).2 hx⟩
  · rintro _ ⟨place, hplace, rfl⟩
    exact hinside place hplace
  · rintro _ ⟨place, hplace, rfl⟩
    have hground := paint?_eq_paintAt hcanvas (hinside place hplace)
    have hplaceFree := isFree_iff.1 (List.all_eq_true.1 hfree place hplace)
    rw [landed, hground, Option.some.injEq, Option.some.injEq]
    exact hplaceFree

/-- The body of a stamp that has room lies where its places land. -/
theorem mem_bodyAt_iff_covered (hstamp : stamp.Rectangular)
    (hroom : canvas.hasRoom stamp corner = true) :
    x ∈ stamp.bodyAt corner ↔ x ∈ coveredByBody stamp corner := by
  constructor
  · rintro ⟨v, hv, rfl⟩
    obtain ⟨r, c, hplace, rfl⟩ := Stamp.mem_body_iff.1 hv
    exact ⟨_, hplace, rfl, (landed_of_hasRoom hstamp hroom hplace).2⟩
  · rintro ⟨⟨r, c, part⟩, hplace, rfl, rfl⟩
    exact ⟨_, Stamp.mem_body_iff.2 ⟨r, c, hplace, rfl⟩,
      (landed_of_hasRoom hstamp hroom hplace).2.symm⟩

/-- A stamp that is put down paints exactly the cells of its body, and all cells that it covers
were free. -/
theorem superimpose_spec (hcanvas : canvas.WellFormed) (hstamp : stamp.Rectangular)
    (h : canvas.superimpose stamp corner paint = some canvas') :
    canvas'.toFrame = canvas.toFrame ∧ canvas'.WellFormed ∧ (0 ≤ corner.row ∧ 0 ≤ corner.col) ∧
      (∀ v ∈ stamp.cover, ∃ p, canvas.paint? (corner.move v) = some p ∧ p.isFree = true) ∧
      (∀ x ∈ stamp.bodyAt corner, canvas'.paint? x = some paint) ∧
      ∀ x, x ∉ stamp.bodyAt corner → canvas'.paint? x = canvas.paint? x := by
  have hroom := (superimpose_eq_some h).1
  have hput := putDown_of_superimpose hcanvas hstamp h
  simp only [mem_bodyAt_iff_covered hstamp hroom]
  refine ⟨hput.frame_eq, hput.wellFormed, (hasRoom_iff.1 hroom).1, fun v hv => ?_, hput.painted,
    hput.unchanged⟩
  obtain ⟨r, c, part, hplace, rfl⟩ := Stamp.mem_cover_iff.1 hv
  have hmove := (landed_of_hasRoom hstamp hroom hplace).2
  rcases hput.was_free _ ⟨_, hplace, hmove⟩ with hground | hground
  · exact ⟨_, hground, rfl⟩
  · exact ⟨_, hground, rfl⟩

/-! ### Painting clear ground -/

/-- Some cells that were clear are painted with a tile, and no others are. -/
structure Painted (canvas canvas' : Canvas) (S : Set Hex) (tile : Tile) : Prop where
  /-- The canvas keeps its extent. -/
  frame_eq : canvas'.toFrame = canvas.toFrame
  /-- The canvas keeps its shape. -/
  wellFormed : canvas'.WellFormed
  /-- Only clear ground is painted. -/
  was_clear : ∀ x ∈ S, canvas.paint? x = some (.dry .clear)
  /-- The cells are painted with the tile. -/
  painted : ∀ x ∈ S, canvas'.paint? x = some (.dry tile)
  /-- All other cells are left alone. -/
  unchanged : ∀ x, x ∉ S → canvas'.paint? x = canvas.paint? x

/-- All around some cells there is nothing but these cells and clear ground. -/
def Isolated (canvas : Canvas) (S : Set Hex) : Prop :=
  ∀ x ∈ S, ∀ d : Direction, d.step x ∈ S ∨ canvas.paint? (d.step x) = some (.dry .clear)

/-- There is no wet rock on the canvas. -/
def IsDry (canvas : Canvas) : Prop := ∀ x, canvas.paint? x ≠ some .wetRock

/-- The cells painted with a tile. -/
def tiled (canvas : Canvas) (tile : Tile) : Set Hex := {x | canvas.paint? x = some (.dry tile)}

/-- Painting with a tile makes nothing wet. -/
theorem Painted.isDry {S : Set Hex} {tile : Tile} (hpainted : Painted canvas canvas' S tile)
    (hdry : canvas.IsDry) : canvas'.IsDry := by
  intro x
  by_cases hx : x ∈ S
  · rw [hpainted.painted x hx]
    simp
  · rw [hpainted.unchanged x hx]
    exact hdry x

/-- On a dry canvas a stamp is put down on clear ground. -/
theorem painted_of_superimpose {tile : Tile} (hcanvas : canvas.WellFormed) (hdry : canvas.IsDry)
    (hstamp : stamp.Rectangular) (h : canvas.superimpose stamp corner (.dry tile) = some canvas') :
    Painted canvas canvas' (stamp.bodyAt corner) tile ∧ (0 ≤ corner.row ∧ 0 ≤ corner.col) ∧
      ∀ v ∈ stamp.cover, canvas.paint? (corner.move v) = some (.dry .clear) := by
  obtain ⟨hframe, hcanvas', hcorner, hfree, hpainted, hunchanged⟩ :=
    superimpose_spec hcanvas hstamp h
  have hclear : ∀ v ∈ stamp.cover, canvas.paint? (corner.move v) = some (.dry .clear) := by
    intro v hv
    obtain ⟨p, hp, hpfree⟩ := hfree v hv
    cases p with
    | dry tile =>
      obtain rfl : tile = .clear := of_decide_eq_true hpfree
      exact hp
    | wetRock => exact absurd hp (hdry _)
  refine ⟨⟨hframe, hcanvas', ?_, hpainted, hunchanged⟩, hcorner, hclear⟩
  rintro x ⟨v, hv, rfl⟩
  exact hclear v (Stamp.body_subset_cover hv)

/-- The margin of a stamp keeps its body apart from what is painted already. -/
theorem isolated_bodyAt (hmargined : stamp.Margined)
    (hclear : ∀ v ∈ stamp.cover, canvas.paint? (corner.move v) = some (.dry .clear)) :
    canvas.Isolated (stamp.bodyAt corner) := by
  rintro x ⟨v, hv, rfl⟩ d
  rw [Direction.step_move]
  exact Or.inr (hclear _ (hmargined v hv d))

/-- Isolated cells keep apart from cells that are painted. -/
theorem Isolated.apart {S T : Set Hex} (hisolated : canvas.Isolated S)
    (hclear : ∀ x ∈ S, canvas.paint? x = some (.dry .clear))
    (hT : ∀ x ∈ T, canvas.paint? x ≠ some (.dry .clear)) : Hex.Apart S T := by
  intro x hx y hy
  have hne : ∀ x' ∈ S, x' ≠ y := by
    rintro x' hx' rfl
    exact hT _ hy (hclear _ hx')
  refine ⟨hne x hx, ?_⟩
  rintro ⟨d, rfl⟩
  rcases hisolated x hx d with hmem | hground
  · exact hne _ hmem rfl
  · exact hT _ hy hground

end Canvas

end Formicary
