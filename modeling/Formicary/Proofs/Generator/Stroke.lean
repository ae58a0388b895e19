import Formicary.Proofs.Generator.Sketch
import Mathlib.Data.Set.Card
import Mathlib.Data.Set.Finite.Powerset

/-!
# One rock

Painting a rock adds one region of rock to a canvas, and costs no more trials than the budget allows
and no more steps than were drawn (`Sketch.drawRock_addsRock`). The two loops behind it are given as
relations that count their rounds and do not know in which way a bound ends them.

* `Sketch.Tried`: cells are drawn until the stamp can be put down, for one unit of the budget each;
* `Sketch.Walked`: the stamp is put down step after step, until something is in the way or the last
  step is done;
* `Sketch.Drawn`: the one loop and then the other, with what is drawn at random before them;
* `Canvas.AddsRock`: what a rock changes on the canvas.
-/

namespace Formicary

namespace Hex

/-- A connected set that keeps apart from a finite one is one region more. -/
theorem ncard_isRegion_union {S T : Set Hex} (hS : S.Finite) (hT : Connected T)
    (hapart : Apart S T) : {R | IsRegion (S ∪ T) R}.ncard = {R | IsRegion S R}.ncard + 1 := by
  have hregions : {R | IsRegion (S ∪ T) R} = insert T {R | IsRegion S R} :=
    Set.ext fun R => isRegion_union_iff hT hapart
  have hnew : T ∉ {R | IsRegion S R} := by
    intro hregion
    -- Its cells are not among those of the old set.
    obtain ⟨a, ha⟩ := hT.1
    exact (hapart a (IsRegion.subset hregion ha) a ha).1 rfl
  have hfinite : {R | IsRegion S R}.Finite := hS.finite_subsets.subset fun R hR => hR.subset
  rw [hregions, Set.ncard_insert_of_notMem hnew hfinite]

end Hex

namespace Canvas

variable {base canvas : Canvas} {S : Set Hex}

/-! ### One more region of rock -/

/-- The cells that have become rock. -/
def newRock (base canvas : Canvas) : Set Hex := canvas.tiled .rock \ base.tiled .rock

/-- One region of rock is added to a canvas, and nothing else is changed. -/
structure AddsRock (base canvas : Canvas) : Prop where
  /-- The canvas keeps its extent. -/
  frame_eq : canvas.toFrame = base.toFrame
  /-- The canvas keeps its shape. -/
  wellFormed : canvas.WellFormed
  /-- No wet rock is left. -/
  isDry : canvas.IsDry
  /-- What was not clear is as it was. -/
  kept : ∀ x, base.paint? x ≠ some (.dry .clear) → canvas.paint? x = base.paint? x
  /-- Beside the new rock everything is as it was. -/
  unchanged : ∀ x, x ∉ newRock base canvas → canvas.paint? x = base.paint? x
  /-- There is new rock, and it is connected. -/
  connected : Hex.Connected (newRock base canvas)
  /-- Around the new rock there was clear ground only. -/
  isolated : base.Isolated (newRock base canvas)
  /-- The new rock is a region of its own, and the other regions are those that were there. -/
  isRegion_iff : ∀ R, Hex.IsRegion (canvas.tiled .rock) R ↔
    R = newRock base canvas ∨ Hex.IsRegion (base.tiled .rock) R
  /-- There is one region of rock more. -/
  ncard_eq : {R | Hex.IsRegion (canvas.tiled .rock) R}.ncard =
    {R | Hex.IsRegion (base.tiled .rock) R}.ncard + 1

/-- The cells painted with a tile are finitely many. -/
theorem finite_tiled (canvas : Canvas) (tile : Tile) : (canvas.tiled tile).Finite := by
  refine ((Set.finite_lt_nat (canvas.height * canvas.width)).image canvas.hex).subset ?_
  intro x hx
  cases hi : canvas.index? x with
  | none =>
    rw [tiled, Set.mem_ofPred_eq, paint?, hi] at hx
    cases hx
  | some i => exact ⟨i, Frame.lt_of_index? hi, Frame.hex_of_index? hi⟩

/-- Painting with rock adds the painted cells to the rock. -/
theorem Painted.tiled_rock (hpainted : Painted base canvas S .rock) :
    canvas.tiled .rock = base.tiled .rock ∪ S := by
  ext x
  rw [tiled, Set.mem_ofPred_eq, hpainted.paint?_eq_iff (by simp), Set.mem_union, or_comm]
  simp [tiled]

theorem Painted.newRock_eq (hpainted : Painted base canvas S .rock) : newRock base canvas = S := by
  have hdisjoint : Disjoint (base.tiled .rock) S := by
    -- What is painted was clear.
    rw [Set.disjoint_left]
    intro x hrock hx
    have hboth := hrock.symm.trans (hpainted.was_clear x hx)
    simp at hboth
  rw [newRock, hpainted.tiled_rock, Set.union_sdiff_left, hdisjoint.symm.sdiff_eq_left]

/-- Rock that is painted on connected cells with clear ground around them is one more region. -/
theorem Painted.addsRock (hpainted : Painted base canvas S .rock) (hdry : base.IsDry)
    (hconnected : Hex.Connected S) (hisolated : base.Isolated S) : AddsRock base canvas := by
  have hapart : Hex.Apart (base.tiled .rock) S := by
    -- The ground around the new cells is clear, and the old rock is not.
    refine (hisolated.apart hpainted.was_clear fun x hx => ?_).symm
    rw [hx]
    simp
  have hnew := hpainted.newRock_eq
  exact {
    frame_eq := hpainted.frame_eq
    wellFormed := hpainted.wellFormed
    isDry := hpainted.isDry hdry
    kept := fun x hx => hpainted.unchanged x fun hmem => hx (hpainted.was_clear x hmem)
    unchanged := by
      rw [hnew]
      exact hpainted.unchanged
    connected := by
      rw [hnew]
      exact hconnected
    isolated := by
      rw [hnew]
      exact hisolated
    isRegion_iff := by
      rw [hnew, hpainted.tiled_rock]
      exact fun R => Hex.isRegion_union_iff hconnected hapart
    ncard_eq := by
      rw [hpainted.tiled_rock]
      exact Hex.ncard_isRegion_union (base.finite_tiled .rock) hconnected hapart }

end Canvas

namespace Sketch

open Canvas

/-! ### Trials -/

section Trials

variable {draw : Rng → Hex × Rng} {stamp : Stamp} {paint : Paint} {budget n : Nat}
  {canvas : Canvas} {rng : Rng} {outcome : Except Rng (Hex × Sketch)}

/-- A stamp is tried on `n` cells that are drawn one after the other, each of which is paid for out
of a budget, with an outcome. -/
inductive Tried (draw : Rng → Hex × Rng) (stamp : Stamp) (paint : Paint) :
    Nat → Nat → Canvas → Rng → Except Rng (Hex × Sketch) → Prop where
  /-- The budget is used up. -/
  | spent {canvas : Canvas} {rng : Rng} : Tried draw stamp paint 0 0 canvas rng (.error rng)
  /-- The stamp is put down on the cell that is drawn. -/
  | placed {budget : Nat} {canvas canvas' : Canvas} {rng : Rng}
    (h : canvas.superimpose stamp (draw rng).1 paint = some canvas') :
    Tried draw stamp paint (budget + 1) 1 canvas rng
      (.ok ((draw rng).1, ⟨canvas', budget, (draw rng).2⟩))
  /-- The stamp cannot be put down, and the next cell is drawn. -/
  | again {budget n : Nat} {canvas : Canvas} {rng : Rng} {outcome : Except Rng (Hex × Sketch)}
    (h : canvas.superimpose stamp (draw rng).1 paint = none)
    (hrest : Tried draw stamp paint budget n canvas (draw rng).2 outcome) :
    Tried draw stamp paint (budget + 1) (n + 1) canvas rng outcome

theorem Tried.placeWithin_eq (h : Tried draw stamp paint budget n canvas rng outcome) :
    placeWithin draw stamp paint budget canvas rng = outcome := by
  induction h with
  | spent => rfl
  | placed h =>
    rw [placeWithin]
    simp only [h]
  | again h _ ih =>
    rw [placeWithin]
    simp only [h, ih]

theorem exists_tried (draw : Rng → Hex × Rng) (stamp : Stamp) (paint : Paint) (budget : Nat)
    (canvas : Canvas) (rng : Rng) :
    ∃ n, Tried draw stamp paint budget n canvas rng
      (placeWithin draw stamp paint budget canvas rng) := by
  induction budget generalizing rng with
  | zero => exact ⟨0, .spent⟩
  | succ budget ih =>
    rw [placeWithin]
    cases h : canvas.superimpose stamp (draw rng).1 paint with
    | some canvas' => exact ⟨1, by simpa only [h] using .placed h⟩
    | none =>
      obtain ⟨n, hrest⟩ := ih (draw rng).2
      exact ⟨n + 1, by simpa only [h] using .again h hrest⟩

/-- Every trial is paid for: a sketch that goes on has spent one unit of its budget on each, and one
that is given up has spent all. -/
theorem Tried.account (h : Tried draw stamp paint budget n canvas rng outcome) :
    match outcome with
    | .error _ => n = budget
    | .ok (_, sketch) => sketch.budget + n = budget := by
  induction h with
  | spent => rfl
  | placed => rfl
  | @again budget n canvas rng outcome h hrest ih =>
    cases outcome with
    | error => exact congrArg (· + 1) ih
    | ok => exact congrArg (· + 1) ih

end Trials

/-! ### Strides -/

section Strides

variable {steer : Direction → Bool → Rng → Direction × Bool × Rng} {stamp : Stamp} {steps n : Nat}

/-- A walk in progress: what is painted so far, where the corner of the stamp is, in which direction
the walk goes, to which side it turns, and the generator. -/
structure Brush where
  /-- What is painted so far. -/
  canvas : Canvas
  /-- The cell on which the corner of the stamp was put last. -/
  spot : Hex
  /-- The direction of the last step. -/
  heading : Direction
  /-- Whether the walk turned to the left the last time. -/
  toLeft : Bool
  /-- The generator. -/
  rng : Rng

/-- Decide about the heading and take a step, without putting the stamp down. -/
def Brush.advance (steer : Direction → Bool → Rng → Direction × Bool × Rng) (brush : Brush) :
    Brush :=
  let (heading, toLeft, rng) := steer brush.heading brush.toLeft brush.rng
  { brush with spot := heading.step brush.spot, heading, toLeft, rng }

variable {brush : Brush} {out : Canvas × Rng}

/-- A walk with some steps ahead of it puts the stamp down `n` times, the last of which may fail,
with an outcome. -/
inductive Walked (steer : Direction → Bool → Rng → Direction × Bool × Rng) (stamp : Stamp) :
    Nat → Nat → Brush → Canvas × Rng → Prop where
  /-- Something is in the way. -/
  | blocked {steps : Nat} {brush : Brush}
    (h : brush.canvas.superimpose stamp (brush.advance steer).spot .wetRock = none) :
    Walked steer stamp (steps + 1) 1 brush (brush.canvas, (brush.advance steer).rng)
  /-- The stamp is put down, and this was the last step. -/
  | last {brush : Brush} {canvas : Canvas}
    (h : brush.canvas.superimpose stamp (brush.advance steer).spot .wetRock = some canvas) :
    Walked steer stamp 1 1 brush (canvas, (brush.advance steer).rng)
  /-- The stamp is put down, and the walk goes on. -/
  | onward {steps n : Nat} {brush : Brush} {canvas : Canvas} {out : Canvas × Rng}
    (h : brush.canvas.superimpose stamp (brush.advance steer).spot .wetRock = some canvas)
    (hrest : Walked steer stamp steps n { brush.advance steer with canvas } out) :
    Walked steer stamp (steps + 1) (n + 1) brush out

theorem walk_succ (brush : Brush) : walk steer stamp (steps + 1) brush.canvas brush.spot
    brush.heading brush.toLeft brush.rng =
      match brush.canvas.superimpose stamp (brush.advance steer).spot .wetRock with
      | some canvas => walk steer stamp steps canvas (brush.advance steer).spot
          (brush.advance steer).heading (brush.advance steer).toLeft (brush.advance steer).rng
      | none => (brush.canvas, (brush.advance steer).rng) := rfl

theorem Walked.walk_eq (h : Walked steer stamp steps n brush out) :
    walk steer stamp steps brush.canvas brush.spot brush.heading brush.toLeft brush.rng = out := by
  induction h with
  | blocked h => rw [walk_succ, h]
  | last h =>
    rw [walk_succ, h]
    rfl
  | onward h _ ih =>
    rw [walk_succ, h]
    exact ih

/-- No walk puts the stamp down more often than it has steps ahead of it. -/
theorem Walked.le (h : Walked steer stamp steps n brush out) : n ≤ steps := by
  induction h with
  | blocked => exact Nat.le_add_left ..
  | last => exact Nat.le_refl 1
  | onward _ _ ih => exact Nat.succ_le_succ ih

theorem exists_walked (steer : Direction → Bool → Rng → Direction × Bool × Rng) (stamp : Stamp)
    (hsteps : 0 < steps) (brush : Brush) : ∃ n, Walked steer stamp steps n brush
      (walk steer stamp steps brush.canvas brush.spot brush.heading brush.toLeft brush.rng) := by
  induction steps generalizing brush with
  | zero => exact absurd hsteps (Nat.lt_irrefl 0)
  | succ steps ih =>
    rw [walk_succ]
    cases h : brush.canvas.superimpose stamp (brush.advance steer).spot .wetRock with
    | none => exact ⟨1, .blocked h⟩
    | some canvas =>
      -- Whether this was the last step is looked at after the stamp has been put down.
      rcases Nat.eq_zero_or_pos steps with rfl | hpos
      · exact ⟨1, .last h⟩
      · obtain ⟨n, hrest⟩ := ih hpos { brush.advance steer with canvas }
        exact ⟨n + 1, .onward h hrest⟩

end Strides

/-! ### The whole rock -/

/-- What is drawn from a generator before a rock is painted, each with the generator after it: a
stamp, the number of a direction, and the number of steps beyond thirty. -/
structure Plan (rng : Rng) where
  /-- The stamp. -/
  stamp : Stamp × Rng
  /-- The number of the direction in which the walk sets out. -/
  heading : UInt32 × Rng
  /-- The number of steps beyond thirty. -/
  extra : UInt32 × Rng
  /-- The stamp is drawn first. -/
  stamp_eq : randomStamp Stamp.rocks rng = stamp
  /-- The direction is drawn next. -/
  heading_eq : stamp.2.below 6 = heading
  /-- The number of steps is drawn last. -/
  extra_eq : heading.2.below 50 = extra

namespace Plan

variable {rng : Rng} (plan : Plan rng)

/-- The plan for a rock. -/
def draw (rng : Rng) : Plan rng := ⟨_, _, _, rfl, rfl, rfl⟩

/-- The direction in which the walk sets out. -/
def direction : Direction := .ofIndex plan.heading.1.toNat

/-- The number of steps. -/
def steps : Nat := 30 + plan.extra.1.toNat

theorem steps_pos : 0 < plan.steps := Nat.lt_of_lt_of_le (by decide) (Nat.le_add_right 30 _)

theorem steps_lt : plan.steps < 80 := by
  have hlt : (plan.heading.2.below 50).1.toNat < 50 :=
    UInt32.lt_iff_toNat_lt.1 (Rng.below_lt plan.heading.2 (by decide))
  rw [plan.extra_eq] at hlt
  exact Nat.add_lt_add_left hlt 30

end Plan

/-- A rock is painted by a plan, with a number of trials and then a number of strides and with an
outcome. -/
inductive Drawn (sketch : Sketch) (plan : Plan sketch.rng) :
    Nat → Nat → Except Rng Sketch → Prop where
  /-- The stamp is not put down at all. -/
  | givenUp {trials : Nat} {rng : Rng}
    (htried : Tried randomSpot plan.stamp.1 .wetRock sketch.budget trials sketch.canvas
      plan.extra.2 (.error rng)) :
    Drawn sketch plan trials 0 (.error rng)
  /-- The stamp is put down and walks on, and the trail dries. -/
  | painted {trials strides : Nat} {spot : Hex} {placed : Sketch} {canvas : Canvas} {rng : Rng}
    (htried : Tried randomSpot plan.stamp.1 .wetRock sketch.budget trials sketch.canvas
      plan.extra.2 (.ok (spot, placed)))
    (hwalked : Walked steer plan.stamp.1 plan.steps strides
      ⟨placed.canvas, spot, plan.direction, true, placed.rng⟩ (canvas, rng)) :
    Drawn sketch plan trials strides (.ok ⟨canvas.dry, placed.budget, rng⟩)

variable {sketch : Sketch} {plan : Plan sketch.rng} {trials strides : Nat}
  {outcome : Except Rng Sketch}

theorem drawRock_eq (sketch : Sketch) (plan : Plan sketch.rng) : sketch.drawRock =
    { sketch with rng := plan.extra.2 }.stroke plan.stamp.1 plan.direction plan.steps := by
  obtain ⟨stamp, heading, extra, hstamp, hheading, hextra⟩ := plan
  -- One draw after the other is given its name, so that none of them is worked out.
  unfold drawRock
  rw [hstamp]
  dsimp only
  rw [hheading, hextra]
  rfl

/-- A rock that is painted by a plan is the rock that is painted. -/
theorem Drawn.drawRock_eq (h : Drawn sketch plan trials strides outcome) :
    sketch.drawRock = outcome := by
  rw [Sketch.drawRock_eq sketch plan, stroke, place]
  cases h with
  | givenUp htried =>
    rw [htried.placeWithin_eq]
    rfl
  | painted htried hwalked =>
    have hwalk := hwalked.walk_eq
    rw [htried.placeWithin_eq]
    simp only [bind, Except.bind, hwalk]
    rfl

theorem exists_drawn (sketch : Sketch) (plan : Plan sketch.rng) :
    ∃ trials strides, Drawn sketch plan trials strides sketch.drawRock := by
  obtain ⟨trials, htried⟩ := exists_tried randomSpot plan.stamp.1 .wetRock sketch.budget
    sketch.canvas plan.extra.2
  -- There is a walk only if there is a place to set out from.
  cases hplace : placeWithin randomSpot plan.stamp.1 .wetRock sketch.budget sketch.canvas
      plan.extra.2 with
  | error rng =>
    rw [hplace] at htried
    have hdrawn : Drawn sketch plan trials 0 (.error rng) := .givenUp htried
    exact ⟨trials, 0, hdrawn.drawRock_eq ▸ hdrawn⟩
  | ok placed =>
    rw [hplace] at htried
    obtain ⟨strides, hwalked⟩ := exists_walked steer plan.stamp.1 plan.steps_pos
      ⟨placed.2.canvas, placed.1, plan.direction, true, placed.2.rng⟩
    have hdrawn : Drawn sketch plan trials strides _ := .painted htried hwalked
    exact ⟨trials, strides, hdrawn.drawRock_eq ▸ hdrawn⟩

/-- Painting a rock comes to one end, after fewer than eighty strides and as many trials as were
paid for out of the budget. If the sketch is not given up, it has one more region of rock and is
else as it was; if it is given up, all of the budget has been used. -/
theorem drawRock_addsRock (sketch : Sketch) (hcanvas : sketch.canvas.WellFormed)
    (hdry : sketch.canvas.IsDry) :
    (∃ plan trials strides, Drawn sketch plan trials strides sketch.drawRock) ∧
      ∀ plan trials strides outcome, Drawn sketch plan trials strides outcome →
        outcome = sketch.drawRock ∧ trials ≤ sketch.budget ∧ strides < 80 ∧
          match outcome with
          | .error _ => trials = sketch.budget
          | .ok sketch' => sketch'.budget + trials = sketch.budget ∧
              AddsRock sketch.canvas sketch'.canvas := by
  refine ⟨⟨Plan.draw sketch.rng, exists_drawn sketch _⟩, fun plan trials strides outcome h => ?_⟩
  have hdraw := h.drawRock_eq
  refine ⟨hdraw.symm, ?_⟩
  cases h with
  | givenUp htried =>
    have hspent : trials = sketch.budget := htried.account
    exact ⟨hspent.le, by decide, hspent⟩
  | @painted _ spot placed canvas rng htried hwalked =>
    have hspent : placed.budget + trials = sketch.budget := htried.account
    obtain ⟨S, hpainted, hconnected, hisolated⟩ := drawRock_spec hdraw hcanvas hdry
    exact ⟨hspent ▸ Nat.le_add_left .., hwalked.le.trans_lt plan.steps_lt, hspent,
      hpainted.addsRock hdry hconnected hisolated⟩

/-- On a small walled canvas the second trial succeeds, and one more region of rock is painted. -/
theorem drawRock_addsRock_small :
    let sketch : Sketch := ⟨Canvas.walled 14 12, 2, ⟨213⟩⟩
    ∃ sketch', sketch.drawRock = .ok sketch' ∧ AddsRock sketch.canvas sketch'.canvas ∧
      ∃ plan strides, Drawn sketch plan 2 strides (.ok sketch') ∧ strides < 80 := by
  intro sketch
  -- The edge is the only thing on the canvas, and it is dry.
  have hlayout := layout_walled (show 0 < 14 by decide) (show 0 < 12 by decide)
  obtain ⟨⟨plan, trials, strides, hdrawn⟩, hall⟩ :=
    drawRock_addsRock sketch hlayout.wellFormed hlayout.isDry
  -- The budget that is left is known without working out the walk.
  have hleft : sketch.drawRock.toOption.map (·.budget) = some 0 := by decide +kernel
  cases hdraw : sketch.drawRock with
  | error rng =>
    rw [hdraw] at hleft
    cases hleft
  | ok sketch' =>
    rw [hdraw] at hleft hdrawn
    have hbudget : sketch'.budget = 0 := Option.some.inj hleft
    obtain ⟨-, -, hstrides, hcount, hadds⟩ := hall _ _ _ _ hdrawn
    obtain rfl : trials = 2 := by rwa [hbudget, Nat.zero_add] at hcount
    exact ⟨sketch', rfl, hadds, plan, strides, hdrawn, hstrides⟩

end Sketch

end Formicary
