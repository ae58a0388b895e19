import Formicary.Generator.Sketch
import Formicary.Proofs.Generator.Canvas
import Formicary.Proofs.Rng

/-!
# Walks of the brush

A rock is painted wet while the brush walks, so that the walk may cross its own trail, and dries
when the walk is over. The trail is always connected, and around it is nothing but clear ground
(`Canvas.Brushed`); so what has dried is one new rock, apart from everything painted before
(`Sketch.drawRock_spec`).
-/

namespace Formicary

namespace Canvas

variable {base canvas canvas' : Canvas} {stamp : Stamp} {spot : Hex}

/-- The cells painted by the walk in progress. -/
def wet (canvas : Canvas) : Set Hex := {x | canvas.paint? x = some .wetRock}

/-- What a walk of the brush has made of a canvas so far. -/
structure Brushed (base canvas : Canvas) : Prop where
  /-- The canvas keeps its extent. -/
  frame_eq : canvas.toFrame = base.toFrame
  /-- The canvas keeps its shape. -/
  wellFormed : canvas.WellFormed
  /-- The trail covers clear ground only. -/
  was_clear : ∀ x ∈ canvas.wet, base.paint? x = some (.dry .clear)
  /-- Beside the trail nothing has changed. -/
  unchanged : ∀ x, x ∉ canvas.wet → canvas.paint? x = base.paint? x
  /-- Around the trail there is clear ground only. -/
  isolated : base.Isolated canvas.wet

theorem Brushed.refl (hcanvas : canvas.WellFormed) (hdry : canvas.IsDry) :
    Brushed canvas canvas :=
  ⟨rfl, hcanvas, fun x hx => absurd hx (hdry x), fun _ _ => rfl, fun x hx => absurd hx (hdry x)⟩

/-- A cell on which the brush may be put down belongs to the trail or was clear. -/
theorem Brushed.wet_or_clear {p : Paint} {x : Hex} (hbrushed : Brushed base canvas)
    (hp : canvas.paint? x = some p) (hfree : p.isFree = true) :
    x ∈ canvas.wet ∨ base.paint? x = some (.dry .clear) := by
  cases p with
  | wetRock => exact Or.inl hp
  | dry tile =>
    obtain rfl : tile = .clear := of_decide_eq_true hfree
    have hdry : x ∉ canvas.wet := by
      intro hwet
      have hboth := hp.symm.trans hwet
      simp at hboth
    exact Or.inr ((hbrushed.unchanged x hdry).symm.trans hp)

/-- The cells that the brush is put down on are painted. -/
theorem wet_of_superimpose (hcanvas : canvas.WellFormed) (hstamp : stamp.Rectangular)
    (h : canvas.superimpose stamp spot .wetRock = some canvas') :
    canvas'.wet = canvas.wet ∪ stamp.bodyAt spot := by
  obtain ⟨-, -, -, -, hpainted, hunchanged⟩ := superimpose_spec hcanvas hstamp h
  ext x
  rw [Set.mem_union]
  by_cases hx : x ∈ stamp.bodyAt spot
  · exact ⟨fun _ => Or.inr hx, fun _ => hpainted x hx⟩
  · have hsame : x ∈ canvas'.wet ↔ x ∈ canvas.wet := by
      simp only [wet, Set.mem_ofPred_eq, hunchanged x hx]
    rw [hsame, or_iff_left hx]

/-- Putting the brush down adds its body to the trail. -/
theorem Brushed.brush (hbrushed : Brushed base canvas) (hstamp : stamp.Rectangular)
    (hmargined : stamp.Margined) (h : canvas.superimpose stamp spot .wetRock = some canvas') :
    Brushed base canvas' ∧ canvas'.wet = canvas.wet ∪ stamp.bodyAt spot := by
  obtain ⟨hframe, hcanvas', -, hfree, -, hunchanged⟩ :=
    superimpose_spec hbrushed.wellFormed hstamp h
  have hwet := wet_of_superimpose hbrushed.wellFormed hstamp h
  -- Body and margin of the brush had to be free.
  have hcover : ∀ v ∈ stamp.cover, spot.move v ∈ canvas.wet ∨
      base.paint? (spot.move v) = some (.dry .clear) := by
    intro v hv
    obtain ⟨p, hp, hpfree⟩ := hfree v hv
    exact hbrushed.wet_or_clear hp hpfree
  refine ⟨?_, hwet⟩
  exact {
    frame_eq := hframe.trans hbrushed.frame_eq
    wellFormed := hcanvas'
    was_clear := by
      rw [hwet]
      rintro x (hx | ⟨v, hv, rfl⟩)
      · exact hbrushed.was_clear x hx
      · rcases hcover v (Stamp.body_subset_cover hv) with hold | hclear
        · exact hbrushed.was_clear _ hold
        · exact hclear
    unchanged := by
      rw [hwet]
      intro x hx
      obtain ⟨hold, hbody⟩ := not_or.1 hx
      rw [hunchanged x hbody, hbrushed.unchanged x hold]
    isolated := by
      rw [hwet]
      rintro x (hx | ⟨v, hv, rfl⟩) d
      · rcases hbrushed.isolated x hx d with hmem | hclear
        · exact Or.inl (Or.inl hmem)
        · exact Or.inr hclear
      · -- The margin of the brush covers the cells around its body.
        rw [Direction.step_move]
        rcases hcover _ (hmargined v hv d) with hmem | hclear
        · exact Or.inl (Or.inl hmem)
        · exact Or.inr hclear }

/-- Wet rock becomes rock, and no other paint changes. -/
theorem paint?_dry (canvas : Canvas) (x : Hex) :
    canvas.dry.paint? x = (canvas.paint? x).map Paint.dried := by
  have hframe : canvas.dry.index? x = canvas.index? x := rfl
  rw [paint?, paint?, hframe]
  cases canvas.index? x with
  | none => rfl
  | some i => exact Array.getElem?_map ..

/-- When the trail has dried, it is rock. -/
theorem Brushed.painted_dry (hbrushed : Brushed base canvas) (hdry : base.IsDry) :
    Painted base canvas.dry canvas.wet .rock := by
  have hunchanged : ∀ x, x ∉ canvas.wet → canvas.dry.paint? x = base.paint? x := by
    intro x hx
    rw [paint?_dry, hbrushed.unchanged x hx]
    cases hp : base.paint? x with
    | none => rfl
    | some p =>
      cases p with
      | dry tile => rfl
      | wetRock => exact absurd hp (hdry x)
  have hpainted : ∀ x ∈ canvas.wet, canvas.dry.paint? x = some (.dry .rock) := by
    intro x hx
    rw [paint?_dry, hx]
    rfl
  refine ⟨hbrushed.frame_eq, ?_, hbrushed.was_clear, hpainted, hunchanged⟩
  rw [WellFormed, Canvas.dry, Array.size_map]
  exact hbrushed.wellFormed

end Canvas

namespace Sketch

open Canvas

variable {base canvas : Canvas} {stamp : Stamp} {spot : Hex} {paint : Paint} {rng : Rng}

/-- What comes of two steps comes of the second after the first. -/
theorem eq_ok_of_bind {α β : Type} {x : Except Rng α} {f : α → Except Rng β} {b : β}
    (h : x >>= f = .ok b) : ∃ a, x = .ok a ∧ f a = .ok b := by
  cases x with
  | error rng => cases h
  | ok a => exact ⟨a, rfl, h⟩

/-- A stamp that is placed within a budget has been put down on some cell. -/
theorem placeWithin_spec {draw : Rng → Hex × Rng} {budget : Nat} {sketch : Sketch}
    (h : placeWithin draw stamp paint budget canvas rng = .ok (spot, sketch)) :
    canvas.superimpose stamp spot paint = some sketch.canvas ∧ sketch.budget < budget := by
  induction budget generalizing rng with
  | zero => simp [placeWithin] at h
  | succ budget ih =>
    rw [placeWithin] at h
    obtain ⟨spot', rng'⟩ := draw rng
    simp only at h
    split at h
    next canvas' hcanvas' =>
      obtain ⟨rfl, rfl⟩ := Prod.mk.inj (Except.ok.inj h)
      exact ⟨hcanvas', Nat.lt_succ_self budget⟩
    next =>
      obtain ⟨hplaced, hbudget⟩ := ih h
      exact ⟨hplaced, Nat.lt_succ_of_lt hbudget⟩

/-- A walk leaves a connected trail. -/
theorem walk_spec (steer : Direction → Bool → Rng → Direction × Bool × Rng) {steps : Nat}
    {heading : Direction} {toLeft : Bool} (hstamp : stamp ∈ Stamp.rocks)
    (hbrushed : Brushed base canvas) (hconnected : Hex.Connected canvas.wet)
    (hspot : stamp.bodyAt spot ⊆ canvas.wet) :
    Brushed base (walk steer stamp steps canvas spot heading toLeft rng).1 ∧
      Hex.Connected (walk steer stamp steps canvas spot heading toLeft rng).1.wet := by
  induction steps generalizing canvas spot heading toLeft rng with
  | zero => exact ⟨hbrushed, hconnected⟩
  | succ steps ih =>
    rw [walk]
    obtain ⟨heading', toLeft', rng'⟩ := steer heading toLeft rng
    simp only
    split
    next canvas' hcanvas' =>
      obtain ⟨hbrushed', hwet⟩ := hbrushed.brush (Stamp.rectangular stamp (by simp [hstamp]))
        (Stamp.margined stamp (by simp [hstamp])) hcanvas'
      -- The body touches its place before the step, cell by cell.
      have hall : stamp ∈ Stamp.hill :: Stamp.rocks ++ Stamp.foods := by simp [hstamp]
      obtain ⟨_, v, hv, rfl⟩ := (Stamp.connected_bodyAt hall spot).1
      have htouch : (spot.move v).Adjacent ((heading'.step spot).move v) := by
        rw [Direction.move_step]
        exact Hex.adjacent_step heading' _
      have hconnected' : Hex.Connected canvas'.wet := by
        rw [hwet]
        exact hconnected.union (Stamp.connected_bodyAt hall _) (hspot ⟨v, hv, rfl⟩) ⟨v, hv, rfl⟩
          (Or.inr htouch)
      refine ih hbrushed' hconnected' ?_
      rw [hwet]
      exact Set.subset_union_right
    next => exact ⟨hbrushed, hconnected⟩

/-- A random stamp is one of those to choose from. -/
theorem randomStamp_mem {stamps : List Stamp} (hne : stamps ≠ [])
    (hlt : stamps.length < UInt32.size) (rng : Rng) : (randomStamp stamps rng).1 ∈ stamps := by
  have hlength : (UInt32.ofNat stamps.length).toNat = stamps.length := Nat.mod_eq_of_lt hlt
  have hpos : UInt32.ofNat stamps.length ≠ 0 := by
    intro hzero
    rw [hzero] at hlength
    exact hne (List.length_eq_zero_iff.1 hlength.symm)
  have hdraw := UInt32.lt_iff_toNat_lt.1 (rng.below_lt hpos)
  rw [hlength] at hdraw
  rw [randomStamp]
  simp only [List.getD_eq_getElem?_getD, List.getElem?_eq_getElem hdraw, Option.getD_some]
  exact List.getElem_mem hdraw

/-- A walk whose trail has dried has painted some connected cells that were clear, and around them
is nothing but clear ground. -/
theorem stroke_spec {sketch sketch' : Sketch} {heading : Direction} {steps : Nat}
    (h : sketch.stroke stamp heading steps = .ok sketch') (hstamp : stamp ∈ Stamp.rocks)
    (hcanvas : sketch.canvas.WellFormed) (hdry : sketch.canvas.IsDry) :
    ∃ S, Painted sketch.canvas sketch'.canvas S .rock ∧ Hex.Connected S ∧
      sketch.canvas.Isolated S := by
  obtain ⟨⟨spot, placed⟩, hplace, hrest⟩ := eq_ok_of_bind h
  obtain ⟨hsuper, -⟩ := placeWithin_spec hplace
  obtain ⟨hbrushed, hwet⟩ := (Brushed.refl hcanvas hdry).brush
    (Stamp.rectangular stamp (by simp [hstamp])) (Stamp.margined stamp (by simp [hstamp])) hsuper
  have hempty : sketch.canvas.wet = ∅ := Set.eq_empty_of_forall_notMem hdry
  rw [hempty, Set.empty_union] at hwet
  have hconnected : Hex.Connected placed.canvas.wet := by
    rw [hwet]
    exact Stamp.connected_bodyAt (by simp [hstamp]) spot
  obtain ⟨hbrushed', hconnected'⟩ :=
    walk_spec steer hstamp hbrushed hconnected hwet.ge
  obtain rfl := Except.ok.inj hrest
  exact ⟨_, hbrushed'.painted_dry hdry, hconnected', hbrushed'.isolated⟩

/-- Painting a rock is some walk of some rock stamp. -/
theorem drawRock_spec {sketch sketch' : Sketch} (h : sketch.drawRock = .ok sketch')
    (hcanvas : sketch.canvas.WellFormed) (hdry : sketch.canvas.IsDry) :
    ∃ S, Painted sketch.canvas sketch'.canvas S .rock ∧ Hex.Connected S ∧
      sketch.canvas.Isolated S := by
  have hne : Stamp.rocks ≠ [] := by decide
  have hstamp := randomStamp_mem hne (by decide) sketch.rng
  unfold drawRock at h
  have hrock := stroke_spec h hstamp hcanvas hdry
  exact hrock

end Sketch

end Formicary
