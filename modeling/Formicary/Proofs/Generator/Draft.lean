import Formicary.Proofs.Generator.Bitmap
import Formicary.Proofs.Generator.Sketch

/-!
# Drafts

A draft is a sketch of which the bits are kept and not the paint. It takes the same draws from the
generator as the sketch that it shows (`Draft.Shows`), so what it comes to is known of the sketch as
well: if the draft of a world is not given up, neither is the world, and the food blobs of the world
have their corners where the draft has put them (`Draft.layout_of_drawFood`).
-/

namespace Formicary

open Sketch

/-- A sketch on bits. -/
structure Draft where
  /-- The bits of what is painted so far. -/
  bitmap : Bitmap
  /-- The number of trials left. -/
  budget : Nat
  /-- The generator. -/
  rng : Rng

namespace Draft

/-! ### The steps of a draft -/

/-- Try cells that are drawn one after the other until a stamp can be put down, at most as many as
the budget allows. -/
def placeWithin (draw : Rng → Hex × Rng) (stamp : Stamp) (paint : Paint) :
    Nat → Bitmap → Rng → Option (Hex × Draft)
  | 0, _, _ => none
  | budget + 1, bitmap, rng =>
    let (spot, rng) := draw rng
    match bitmap.superimpose stamp spot paint with
    | some bitmap => some (spot, ⟨bitmap, budget, rng⟩)
    | none => placeWithin draw stamp paint budget bitmap rng

/-- Put a stamp down on a random cell. -/
def place (draft : Draft) (stamp : Stamp) (paint : Paint) : Option (Hex × Draft) :=
  placeWithin randomSpot stamp paint draft.budget draft.bitmap draft.rng

/-- Walk a rock stamp over the bits. Before every step `steer` decides about the heading. -/
def walk (steer : Direction → Bool → Rng → Direction × Bool × Rng) (stamp : Stamp) :
    Nat → Bitmap → Hex → Direction → Bool → Rng → Bitmap × Rng
  | 0, bitmap, _, _, _, rng => (bitmap, rng)
  | steps + 1, bitmap, spot, heading, toLeft, rng =>
    let (heading, toLeft, rng) := steer heading toLeft rng
    let spot := heading.step spot
    match bitmap.superimpose stamp spot .wetRock with
    | some bitmap => walk steer stamp steps bitmap spot heading toLeft rng
    | none => (bitmap, rng)

/-- Walk a stamp from a random cell and let its trail dry. -/
def stroke (draft : Draft) (stamp : Stamp) (heading : Direction) (steps : Nat) : Option Draft := do
  let (spot, draft) ← draft.place stamp .wetRock
  let (bitmap, rng) := walk steer stamp steps draft.bitmap spot heading true draft.rng
  return { draft with bitmap := bitmap.dry, rng }

/-- Paint one rock. -/
def drawRock (draft : Draft) : Option Draft :=
  let stamp := randomStamp Stamp.rocks draft.rng
  let heading := stamp.2.below 6
  let steps := heading.2.below 50
  { draft with rng := steps.2 }.stroke stamp.1 (.ofIndex heading.1.toNat) (30 + steps.1.toNat)

/-- Paint a number of rocks. -/
def drawRocks : Nat → Draft → Option Draft
  | 0, draft => some draft
  | count + 1, draft => do drawRocks count (← draft.drawRock)

/-- Paint the rocks, the red and the black hill. -/
def drawGround (rng : Rng) : Option Draft := do
  let draft ← drawRocks rockCount ⟨Bitmap.walled contestSize contestSize, maxTrials, rng⟩
  let (_, draft) ← draft.place Stamp.hill (.dry (.hill .red))
  let (_, draft) ← draft.place Stamp.hill (.dry (.hill .black))
  return draft

/-- Paint a number of food blobs, and list their corners before those that are listed already. -/
def drawFood : Nat → Draft → List Hex → Option (List Hex)
  | 0, _, corners => some corners
  | count + 1, draft, corners => do
    let stamp := randomStamp Stamp.foods draft.rng
    let (corner, draft) ← { draft with rng := stamp.2 }.place stamp.1 (.dry (.food contestFood))
    drawFood count draft (corner :: corners)

/-- The corners of the food blobs of a whole world. -/
def foodCorners (rng : Rng) : Option (List Hex) := do
  let draft ← drawGround rng
  draft.drawFood contestBlobs []

/-! ### The sketch that is shown -/

/-- The draft is that of a sketch. -/
structure Shows (draft : Draft) (sketch : Sketch) : Prop where
  /-- The bits are those of the canvas. -/
  bitmap_shows : draft.bitmap.Shows sketch.canvas
  /-- As many trials are left. -/
  budget_eq : draft.budget = sketch.budget
  /-- The generator is the same. -/
  rng_eq : draft.rng = sketch.rng

variable {draft draft' : Draft} {sketch : Sketch} {bitmap : Bitmap} {canvas : Canvas}
  {stamp : Stamp} {paint : Paint} {spot : Hex} {heading : Direction} {budget steps count : Nat}
  {rng : Rng}

theorem Shows.set_rng (h : draft.Shows sketch) (rng : Rng) :
    Shows { draft with rng } { sketch with rng } :=
  ⟨h.bitmap_shows, h.budget_eq, rfl⟩

/-- What is placed in the draft is placed on the same cell in the sketch. -/
theorem placeWithin_sound {draw : Rng → Hex × Rng} (h : bitmap.Shows canvas)
    (hplace : placeWithin draw stamp paint budget bitmap rng = some (spot, draft)) :
    ∃ sketch, Sketch.placeWithin draw stamp paint budget canvas rng = .ok (spot, sketch) ∧
      draft.Shows sketch := by
  induction budget generalizing rng with
  | zero => cases hplace
  | succ budget ih =>
    rw [placeWithin] at hplace
    rw [Sketch.placeWithin]
    -- Both try the same cell, and either both put the stamp down or neither does.
    generalize draw rng = drawn at hplace ⊢
    obtain ⟨spot', rng'⟩ := drawn
    have hsame := h.superimpose stamp spot' paint
    simp only at hplace ⊢
    generalize bitmap.superimpose stamp spot' paint = bits at hsame hplace
    generalize canvas.superimpose stamp spot' paint = painted at hsame ⊢
    cases hsame with
    | some hshows =>
      obtain ⟨rfl, rfl⟩ := Prod.mk.inj (Option.some.inj hplace)
      exact ⟨_, rfl, hshows, rfl, rfl⟩
    | none => exact ih hplace

theorem Shows.place (h : draft.Shows sketch)
    (hplace : draft.place stamp paint = some (spot, draft')) :
    ∃ sketch', sketch.place stamp paint = .ok (spot, sketch') ∧ draft'.Shows sketch' := by
  rw [Draft.place, h.budget_eq, h.rng_eq] at hplace
  exact placeWithin_sound h.bitmap_shows hplace

theorem Shows.put (h : draft.Shows sketch)
    (hplace : draft.place stamp paint = some (spot, draft')) :
    ∃ sketch', sketch.put stamp paint = .ok sketch' ∧ draft'.Shows sketch' := by
  obtain ⟨sketch', hsketch, hshows⟩ := h.place hplace
  refine ⟨sketch', ?_, hshows⟩
  rw [Sketch.put, hsketch]
  rfl

/-- A walk over the bits goes where the walk over the canvas goes. -/
theorem shows_walk (steer : Direction → Bool → Rng → Direction × Bool × Rng) (stamp : Stamp)
    (steps : Nat) (spot : Hex) (heading : Direction) (toLeft : Bool) (rng : Rng)
    (h : bitmap.Shows canvas) :
    (walk steer stamp steps bitmap spot heading toLeft rng).1.Shows
        (Sketch.walk steer stamp steps canvas spot heading toLeft rng).1 ∧
      (walk steer stamp steps bitmap spot heading toLeft rng).2 =
        (Sketch.walk steer stamp steps canvas spot heading toLeft rng).2 := by
  induction steps generalizing bitmap canvas spot heading toLeft rng with
  | zero => exact ⟨h, rfl⟩
  | succ steps ih =>
    rw [walk, Sketch.walk]
    -- Both take the same step, and either both go on from there or both stop.
    generalize steer heading toLeft rng = steered
    obtain ⟨heading', toLeft', rng'⟩ := steered
    have hsame := h.superimpose stamp (heading'.step spot) .wetRock
    simp only
    generalize bitmap.superimpose stamp (heading'.step spot) .wetRock = bits at hsame ⊢
    generalize canvas.superimpose stamp (heading'.step spot) .wetRock = painted at hsame ⊢
    cases hsame with
    | some hshows => exact ih _ _ _ _ hshows
    | none => exact ⟨h, rfl⟩

theorem Shows.stroke (h : draft.Shows sketch)
    (hstroke : draft.stroke stamp heading steps = some draft') :
    ∃ sketch', sketch.stroke stamp heading steps = .ok sketch' ∧ draft'.Shows sketch' := by
  obtain ⟨⟨spot, placed⟩, hplace, hrest⟩ := Option.bind_eq_some_iff.1 hstroke
  obtain rfl := Option.some.inj hrest
  obtain ⟨sketch', hsketch, hshows⟩ := h.place hplace
  obtain ⟨hbits, hrng⟩ :=
    shows_walk steer stamp steps spot heading true placed.rng hshows.bitmap_shows
  rw [hshows.rng_eq] at hbits hrng ⊢
  refine ⟨⟨_, _, _⟩, ?_, hbits.dry, hshows.budget_eq, hrng⟩
  rw [Sketch.stroke, hsketch]
  rfl

theorem Shows.drawRock (h : draft.Shows sketch) (hrock : draft.drawRock = some draft') :
    ∃ sketch', sketch.drawRock = .ok sketch' ∧ draft'.Shows sketch' := by
  unfold Draft.drawRock at hrock
  rw [h.rng_eq] at hrock
  exact (h.set_rng _).stroke hrock

theorem Shows.drawRocks (h : draft.Shows sketch) (hrocks : drawRocks count draft = some draft') :
    ∃ sketch', paintMany Sketch.drawRock count sketch = .ok sketch' ∧ draft'.Shows sketch' := by
  induction count generalizing draft sketch with
  | zero =>
    obtain rfl := Option.some.inj hrocks
    exact ⟨sketch, rfl, h⟩
  | succ count ih =>
    obtain ⟨next, hrock, hrest⟩ := Option.bind_eq_some_iff.1 hrocks
    obtain ⟨sketch', hsketch, hshows⟩ := h.drawRock hrock
    obtain ⟨sketch'', hsketch', hshows'⟩ := ih hshows hrest
    refine ⟨sketch'', ?_, hshows'⟩
    rw [paintMany, hsketch]
    exact hsketch'

/-- If the draft of rocks and hills is not given up, it shows the rocks and hills of the world. -/
theorem drawGround_sound (h : drawGround rng = some draft) :
    ∃ sketch, Sketch.drawGround rng = .ok sketch ∧ draft.Shows sketch := by
  obtain ⟨stones, hstones, h⟩ := Option.bind_eq_some_iff.1 h
  obtain ⟨⟨_, red⟩, hred, h⟩ := Option.bind_eq_some_iff.1 h
  obtain ⟨⟨_, black⟩, hblack, h⟩ := Option.bind_eq_some_iff.1 h
  obtain rfl := Option.some.inj h
  have hwalled : Shows ⟨Bitmap.walled contestSize contestSize, maxTrials, rng⟩
      ⟨Canvas.walled contestSize contestSize, maxTrials, rng⟩ :=
    ⟨Bitmap.shows_walled contestSize contestSize, rfl, rfl⟩
  obtain ⟨sketch, hsketch, hshows⟩ := hwalled.drawRocks hstones
  obtain ⟨sketch', hsketch', hshows'⟩ := hshows.put hred
  obtain ⟨sketch'', hsketch'', hshows''⟩ := hshows'.put hblack
  refine ⟨sketch'', ?_, hshows''⟩
  rw [Sketch.drawGround, hsketch]
  show (sketch.put Stamp.hill _ >>= fun sketch => sketch.put Stamp.hill _) = _
  rw [hsketch']
  exact hsketch''

/-- If the draft of the food is not given up, the food blobs of the sketch are at the corners that
it lists. -/
theorem layout_of_drawFood {solids : List (Tile × Set Hex)} {corners : List Hex}
    (blobs : List Canvas.Blob) (h : draft.Shows sketch)
    (hfood : draft.drawFood count (blobs.map Prod.snd) = some corners)
    (hlayout : Canvas.Layout sketch.canvas solids blobs) :
    ∃ sketch', paintMany drawBlob count sketch = .ok sketch' ∧
      sketch'.canvas.toFrame = sketch.canvas.toFrame ∧
      ∃ blobs', blobs'.map Prod.snd = corners ∧ Canvas.Layout sketch'.canvas solids blobs' := by
  induction count generalizing draft sketch blobs with
  | zero => exact ⟨sketch, rfl, rfl, blobs, Option.some.inj hfood, hlayout⟩
  | succ count ih =>
    obtain ⟨⟨corner, next⟩, hplace, hrest⟩ := Option.bind_eq_some_iff.1 hfood
    rw [h.rng_eq] at hplace
    obtain ⟨sketch', hsketch, hshows⟩ := (h.set_rng _).place hplace
    -- The new blob is put before the others, as its corner is put before theirs.
    obtain ⟨hframe, hlayout'⟩ :=
      layout_food (randomFood_mem sketch.rng) (placeWithin_spec hsketch).1 hlayout
    obtain ⟨sketch'', hrest', hframe', hblobs⟩ :=
      ih ((_, corner) :: blobs) hshows hrest hlayout'
    refine ⟨sketch'', ?_, hframe'.trans hframe, hblobs⟩
    have hone : sketch.drawBlob = .ok sketch' := by
      unfold Sketch.drawBlob
      rw [Sketch.put, hsketch]
      rfl
    rw [paintMany, hone]
    exact hrest'

/-- If the draft of a world is not given up, there is a sketch of the world, which has its food
blobs at the corners that the draft lists. -/
theorem exists_sketch {corners : List Hex} (h : foodCorners rng = some corners) :
    ∃ (ground world : Sketch) (nest : Color → Hex) (rocks : List (Set Hex))
      (blobs : List Canvas.Blob),
      (Sketch.drawGround rng = .ok ground ∧ Landscape ground.canvas nest rocks []) ∧
        Sketch.drawWorld rng = .ok world ∧ Landscape world.canvas nest rocks blobs ∧
        blobs.map Prod.snd = corners := by
  obtain ⟨draft, hdraft, hfood⟩ := Option.bind_eq_some_iff.1 h
  obtain ⟨ground, hground, hshows⟩ := drawGround_sound hdraft
  obtain ⟨nest, rocks, hland⟩ := drawGround_spec hground
  obtain ⟨world, hworld, hframe, blobs, hcorners, hlayout⟩ :=
    layout_of_drawFood [] hshows hfood hland.layout
  refine ⟨ground, world, nest, rocks, blobs, ⟨hground, hland⟩, ?_,
    { hland with frame_eq := hframe.trans hland.frame_eq, layout := hlayout }, hcorners⟩
  rw [drawWorld_eq, hground]
  exact hworld

/-! ### A sample -/

/-- A generator from which a world comes at the first attempt. -/
def sampleRng : Rng := ⟨5138179⟩

/-- The corners of the food blobs of the sample, the last of them first. -/
def sampleCorners : List Hex :=
  [⟨70, 118⟩, ⟨70, 89⟩, ⟨102, 99⟩, ⟨10, 7⟩, ⟨68, 10⟩, ⟨38, 134⟩, ⟨103, 85⟩, ⟨136, 15⟩, ⟨17, 93⟩,
    ⟨52, 132⟩, ⟨78, 41⟩]

/-- The draft of the sample, worked out. -/
theorem foodCorners_sample : foodCorners sampleRng = some sampleCorners := by decide +kernel

end Draft

end Formicary
