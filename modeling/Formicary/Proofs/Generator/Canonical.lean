import Formicary.Proofs.Generator.Attempt
import Formicary.Proofs.World.RoundTrip
import Mathlib.Data.Fintype.Pigeonhole

/-!
# Canonical sources

A canvas of the size of a contest world, drawn with no other symbols than those of rock, clear
ground, the hills and the food of a contest, is finished (`Canvas.Finished`): no wet rock is left on
it, and every symbol is read back as the tile that was painted. So whatever the reader makes of the
drawing of a finished canvas is the world that the canvas shows (`Canvas.Finished.eq_world`), and
its printed form is the drawing (`Canvas.Finished.render_eq`). Every sketch ends with a finished
canvas (`Sketch.finished_drawWorld`), and a generated source is the drawing of a sketch that the
contest rules have accepted, so it is the printed form of the world that is read from it
(`generated_source_canonical`).

Of the attempts of `generateWorld` none is missing: what any number of attempts would find is found
before the states of the generator repeat (`generateWorld_eq_some_iff`).
-/

namespace Formicary

/-! ### Repeated attempts -/

section Attempts

variable {attempt : Rng → Option String × Rng} {rng : Rng} {found : String × Rng} {n : Nat}

/-- A first attempt that is accepted is what is found. -/
theorem generateWithin_one {rng' : Rng} {source : String} {world : WorldMap}
    (hattempt : attempt rng = (some source, rng'))
    (hparse : WorldMap.parse source true = .ok world) :
    generateWithin attempt 1 rng = some (source, rng') := by
  simp only [generateWithin, hattempt, hparse]

/-- What is found in some attempts is found when more attempts are allowed. -/
theorem generateWithin_add (h : generateWithin attempt n rng = some found) (m : Nat) :
    generateWithin attempt (n + m) rng = some found := by
  induction n generalizing rng with
  | zero => cases h
  | succ n ih =>
    rw [Nat.add_right_comm]
    simp only [generateWithin] at h ⊢
    split at h
    · exact ih h
    · split at h
      · exact h
      · exact ih h

/-- After attempts in vain the search is what it would be from the state of the generator then. -/
theorem generateWithin_add_of_none (h : generateWithin attempt n rng = none) (m : Nat) :
    generateWithin attempt (n + m) rng =
      generateWithin attempt m ((fun rng => (attempt rng).2)^[n] rng) := by
  -- Every attempt in vain leaves its generator to the attempts after it.
  induction n generalizing rng with
  | zero => rw [Nat.zero_add, Function.iterate_zero_apply]
  | succ n ih =>
    rw [Nat.add_right_comm, Function.iterate_succ_apply]
    simp only [generateWithin] at h ⊢
    split at h
    next hattempt => rw [hattempt]; exact ih h
    next hattempt =>
      rw [hattempt]
      split at h
      · cases h
      · exact ih h

/-- Among more states of the generator than there are, two are the same. -/
theorem exists_same_state (states : Nat → Rng) (hn : Rng.period < n) :
    ∃ i j, i < j ∧ j < n ∧ states i = states j := by
  have hcard : Fintype.card (Fin UInt64.size) < Fintype.card (Fin n) := by
    rw [Fintype.card_fin, Fintype.card_fin]
    exact hn
  obtain ⟨i, j, hne, hsame⟩ :=
    Fintype.exists_ne_map_eq_of_card_lt (fun i : Fin n => (states i).state.toFin) hcard
  have hstates : states i = states j := congrArg Rng.mk (UInt64.toFin_inj.1 hsame)
  rcases Nat.lt_or_gt_of_ne (Fin.val_ne_of_ne hne) with hlt | hlt
  · exact ⟨i, j, hlt, j.isLt, hstates⟩
  · exact ⟨j, i, hlt, i.isLt, hstates.symm⟩

/-- What is found at all is found in as many attempts as the generator has states. -/
theorem generateWithin_period (h : generateWithin attempt n rng = some found) :
    generateWithin attempt Rng.period rng = some found := by
  have hex : ∃ n, generateWithin attempt n rng = some found := ⟨n, h⟩
  -- All attempts before the last one that is needed are in vain.
  have hfirst := Nat.find_spec hex
  have hvain : ∀ m < Nat.find hex, generateWithin attempt m rng = none := by
    intro m hm
    cases hm' : generateWithin attempt m rng with
    | none => rfl
    | some found' =>
      have hmore := generateWithin_add hm' (Nat.find hex - m)
      rw [Nat.add_sub_cancel' hm.le, hfirst] at hmore
      exact absurd (hm'.trans hmore.symm) (Nat.find_min hex hm)
  rcases Nat.lt_or_ge Rng.period (Nat.find hex) with hlt | hle
  · -- The search goes on after `j` attempts as it does after `i`, so fewer would have been enough.
    obtain ⟨i, j, hij, hj, hsame⟩ :=
      exists_same_state (fun k => (fun rng => (attempt rng).2)^[k] rng) hlt
    have hlate := generateWithin_add_of_none (hvain j hj) (Nat.find hex - j)
    have hearly := generateWithin_add_of_none (hvain i (hij.trans hj)) (Nat.find hex - j)
    rw [Nat.add_sub_cancel' hj.le, hfirst] at hlate
    have hfound : generateWithin attempt (i + (Nat.find hex - j)) rng = some found :=
      hearly.trans ((congrArg _ hsame).trans hlate.symm)
    exact absurd hfound (Nat.find_min hex (by omega))
  · have hmore := generateWithin_add hfirst (Rng.period - Nat.find hex)
    rwa [Nat.add_sub_cancel' hle] at hmore

/-- What is found comes of some attempt and is accepted by the contest rules. -/
theorem accepted_of_generateWithin (h : generateWithin attempt n rng = some found) :
    (∃ rng, attempt rng = (some found.1, found.2)) ∧
      ∃ world, WorldMap.parse found.1 true = .ok world := by
  induction n generalizing rng with
  | zero => cases h
  | succ n ih =>
    simp only [generateWithin] at h
    split at h
    · exact ih h
    next hattempt =>
      split at h
      next hparse =>
        obtain rfl := Option.some.inj h
        exact ⟨⟨rng, hattempt⟩, _, hparse⟩
      · exact ih h

end Attempts

/-- The search for a world finds what would be found by any number of attempts. -/
theorem generateWorld_eq_some_iff {rng : Rng} {found : String × Rng} :
    generateWorld rng = some found ↔
      ∃ attempts, generateWithin attemptWorld attempts rng = some found :=
  ⟨fun h => ⟨_, h⟩, fun ⟨_, h⟩ => generateWithin_period h⟩

/-! ### Finished canvases -/

namespace Canvas

/-- The symbols of a finished drawing: rock, clear ground, the two hills and the food of a
contest. -/
def finalSymbols : List Char := ['#', '.', '+', '-', '5']

/-- A canvas of the size of a contest world that is drawn with final symbols. -/
structure Finished (canvas : Canvas) : Prop where
  /-- The canvas is as large as a contest world. -/
  frame_eq : canvas.toFrame = contestFrame
  /-- There is paint for every cell. -/
  wellFormed : canvas.WellFormed
  /-- Every symbol is final, so no wet rock is left. -/
  final : ∀ paint ∈ canvas.cells, paint.symbol ∈ finalSymbols

variable {canvas : Canvas} {paint : Paint} {row col : Nat} {contest : Bool} {world : WorldMap}

/-- All paint of a canvas is on some cell. -/
theorem exists_paint?_of_mem (hcanvas : canvas.WellFormed) (hpaint : paint ∈ canvas.cells) :
    ∃ x, canvas.paint? x = some paint := by
  obtain ⟨i, hi, hget⟩ := Array.mem_iff_getElem.1 hpaint
  refine ⟨canvas.hex i, ?_⟩
  rw [paint?, canvas.index?_hex (hcanvas ▸ hi)]
  exact Array.getElem?_eq_some_iff.2 ⟨hi, hget⟩

/-- The paint on a cell is paint of the canvas. -/
theorem mem_of_paint? {x : Hex} (h : canvas.paint? x = some paint) : paint ∈ canvas.cells := by
  rw [paint?] at h
  cases hi : canvas.index? x with
  | none => rw [hi] at h; cases h
  | some i => rw [hi] at h; exact Array.mem_of_getElem? h

theorem Finished.isDry (h : canvas.Finished) : canvas.IsDry := fun _ hwet =>
  absurd (h.final _ (mem_of_paint? hwet)) (by decide)

/-- Paint with a final symbol stands for a tile that can be printed: among the symbols that food of
any amount might have, only that of the contest's amount is final. -/
theorem printable_of_final (hfinal : paint.symbol ∈ finalSymbols) : paint.tile.Printable := by
  cases paint with
  | wetRock => trivial
  | dry tile =>
    cases tile with
    | rock | clear | hill => trivial
    | food amount =>
      show 1 ≤ amount ∧ amount ≤ 9
      -- A number that no character has stands for the character with the number zero.
      have hvalue : (Char.ofNat (48 + amount)).toNat = 48 + amount ∨
          (Char.ofNat (48 + amount)).toNat = 0 := by
        by_cases hvalid : (48 + amount).isValidChar
        · exact Or.inl (congrArg Char.toNat (dif_pos hvalid))
        · exact Or.inr (congrArg Char.toNat (dif_neg hvalid))
      have hcode : (Char.ofNat (48 + amount)).toNat ∈ finalSymbols.map Char.toNat :=
        List.mem_map_of_mem hfinal
      have hcodes : finalSymbols.map Char.toNat = [35, 46, 43, 45, 53] := rfl
      simp only [hcodes, List.mem_cons, List.not_mem_nil, or_false] at hcode
      omega

/-- The tiles of a finished canvas can be printed. -/
theorem Finished.printable (h : canvas.Finished) :
    ∀ tile ∈ canvas.world.tiles, tile.Printable := by
  intro tile htile
  obtain ⟨paint, hpaint, rfl⟩ := Array.mem_map.1 htile
  exact printable_of_final (h.final paint hpaint)

/-- The drawing of a finished canvas is the printed form of its world. -/
theorem Finished.render_eq (h : canvas.Finished) : canvas.render = canvas.world.text :=
  render_eq_text h.wellFormed h.isDry

/-- Whatever is read from the drawing of a finished canvas is the world of the canvas. -/
theorem Finished.eq_world (h : canvas.Finished)
    (hparse : WorldMap.parse canvas.render contest = .ok world) : world = canvas.world := by
  have hwidth : canvas.world.width = 150 := congrArg Frame.width h.frame_eq
  have hheight : canvas.world.height = 150 := congrArg Frame.height h.frame_eq
  have hlines : WorldMap.minLines contest ≤ canvas.world.height + 2 := by
    rw [hheight]
    cases contest <;> decide
  rw [h.render_eq] at hparse
  exact WorldMap.eq_of_parse_text h.wellFormed.world (by rw [hwidth]; decide)
    (by rw [hheight]; decide) (by rw [hwidth]; decide) (by rw [hheight]; decide) h.printable
    hlines (fun _ => ⟨hwidth, hheight⟩) hparse

/-- A walled canvas of the size of a contest world is finished. -/
theorem finished_walled : (walled contestSize contestSize).Finished := by
  have hcanvas : (walled contestSize contestSize).WellFormed :=
    (layout_walled (by decide) (by decide)).wellFormed
  refine ⟨rfl, hcanvas, fun paint hpaint => ?_⟩
  obtain ⟨x, hx⟩ := exists_paint?_of_mem hcanvas hpaint
  obtain ⟨-, ⟨rfl, -⟩ | ⟨rfl, -⟩⟩ := (paint?_walled ..).1 hx <;> decide

/-- A finished canvas stays finished when a cell is painted with a final symbol. -/
theorem Finished.paintCell (h : canvas.Finished) (hpaint : paint.symbol ∈ finalSymbols) :
    (canvas.paintCell row col paint).Finished := by
  refine ⟨h.frame_eq, wellFormed_paintCell h.wellFormed, fun paint' hpaint' => ?_⟩
  rcases Array.mem_or_eq_of_mem_setIfInBounds hpaint' with hmem | rfl
  · exact h.final paint' hmem
  · exact hpaint

end Canvas

/-- Every sketch that is not given up ends with a finished canvas. -/
theorem Sketch.finished_drawWorld {rng : Rng} {sketch : Sketch}
    (h : Sketch.drawWorld rng = .ok sketch) : sketch.canvas.Finished := by
  obtain ⟨nest, rocks, blobs, -, hland⟩ := drawWorld_spec h
  have hlayout := hland.layout
  refine ⟨hland.frame_eq, hlayout.wellFormed, fun paint hpaint => ?_⟩
  obtain ⟨x, hx⟩ := Canvas.exists_paint?_of_mem hlayout.wellFormed hpaint
  cases paint with
  | wetRock => exact absurd hx (hlayout.isDry x)
  | dry tile =>
    by_cases hclear : tile = .clear
    · subst hclear
      decide
    · -- What is not clear has been painted by one of the things of the layout.
      obtain ⟨⟨tile', S⟩, hthing, htile, -⟩ := (hlayout.painted_iff tile hclear x).1 hx
      obtain rfl : tile' = tile := htile
      rcases List.mem_append.1 hthing with hsolid | hblob
      · obtain ⟨rfl, -⟩ | ⟨color, rfl, -⟩ := mem_landmarks_iff.1 hsolid
        · decide
        · cases color <;> decide
      · obtain ⟨blob, -, hblob⟩ := List.mem_map.1 hblob
        obtain rfl : Tile.food contestFood = tile' := congrArg Prod.fst hblob
        decide

/-! ### Generated sources -/

/-- A canvas of the size of a contest world with three cells on clear ground: one of each hill and
one with food. -/
def meadow : Canvas :=
  (((Canvas.walled contestSize contestSize).paintCell 70 40 (.dry (.hill .red))).paintCell 70 110
    (.dry (.hill .black))).paintCell 75 75 (.dry (.food contestFood))

theorem finished_meadow : meadow.Finished :=
  ((Canvas.finished_walled.paintCell (by decide)).paintCell (by decide)).paintCell (by decide)

/-- The paint of the meadow, cell by cell. -/
theorem paint?_meadow (x : Hex) : meadow.paint? x =
    if x = ⟨75, 75⟩ then some (.dry (.food contestFood))
    else if x = ⟨70, 110⟩ then some (.dry (.hill .black))
    else if x = ⟨70, 40⟩ then some (.dry (.hill .red))
    else (Canvas.walled contestSize contestSize).paint? x := by
  have hwalled := Canvas.finished_walled.wellFormed
  rw [meadow, Canvas.paint?_paintCell (Canvas.wellFormed_paintCell
      (Canvas.wellFormed_paintCell hwalled)) (by decide),
    Canvas.paint?_paintCell (Canvas.wellFormed_paintCell hwalled) (by decide),
    Canvas.paint?_paintCell hwalled (by decide)]
  rfl

/-- The meadow is a world that can be drawn, although not one for a contest. -/
theorem drawable_meadow : meadow.world.Drawable := by
  have htile : ∀ x tile, meadow.paint? x = some (.dry tile) → meadow.world.tile? x = some tile :=
    fun x tile => (Canvas.tile?_world_eq_iff finished_meadow.isDry).2
  have hedge : ∀ x ∈ meadow.world.edge, meadow.world.tile? x = some .rock := by
    intro x hx
    -- None of the three cells lies at the edge, so the rock there is what it was.
    have hoff : x ≠ ⟨75, 75⟩ ∧ x ≠ ⟨70, 110⟩ ∧ x ≠ ⟨70, 40⟩ := by
      refine ⟨?_, ?_, ?_⟩ <;> rintro rfl <;> exact absurd hx.2 (by decide)
    apply htile
    rw [paint?_meadow, if_neg hoff.1, if_neg hoff.2.1, if_neg hoff.2.2]
    exact (Canvas.paint?_walled ..).2 ⟨hx.1, Or.inl ⟨rfl, hx⟩⟩
  exact {
    wellFormed := finished_meadow.wellFormed.world
    width := ⟨by decide, by decide⟩
    height := ⟨by decide, by decide⟩
    printable := finished_meadow.printable
    edge := hedge
    hill := by
      intro color
      cases color with
      | red => exact ⟨⟨70, 40⟩, htile _ _ (by rw [paint?_meadow]; rfl)⟩
      | black => exact ⟨⟨70, 110⟩, htile _ _ (by rw [paint?_meadow]; rfl)⟩
    food := ⟨⟨75, 75⟩, contestFood, htile _ _ (by rw [paint?_meadow]; rfl)⟩ }

/-- A generated source is canonical. It is the drawing of a finished canvas, the contest rules
accept it, and the world that is read from it is printed as this very source. Nor does it take the
rules to make the drawing of a finished canvas canonical: whenever it is read, by the basic rules
or by those of a contest, the world that is read is the one that the canvas shows, and it is
printed as this very drawing. -/
theorem generated_source_canonical :
    (∀ rng rng' source, generateWorld rng = some (source, rng') →
      (∃ canvas : Canvas, canvas.Finished ∧ canvas.render = source) ∧
        ∃ world, WorldMap.parse source true = .ok world ∧ world.text = source) ∧
      ∀ (canvas : Canvas) (contest : Bool) (world : WorldMap), canvas.Finished →
        WorldMap.parse canvas.render contest = .ok world →
        world = canvas.world ∧ world.text = canvas.render := by
  have hprinted : ∀ (canvas : Canvas) (contest : Bool) (world : WorldMap), canvas.Finished →
      WorldMap.parse canvas.render contest = .ok world →
      world = canvas.world ∧ world.text = canvas.render := by
    intro canvas contest world hfinished hparse
    obtain rfl := hfinished.eq_world hparse
    exact ⟨rfl, hfinished.render_eq.symm⟩
  refine ⟨fun rng rng' source hfound => ?_, hprinted⟩
  obtain ⟨⟨rng₀, hattempt⟩, world, hparse⟩ := accepted_of_generateWithin hfound
  obtain ⟨sketch, hdraw, rfl⟩ := Sketch.eq_ok_of_result (congrArg Prod.fst hattempt)
  have hfinished := Sketch.finished_drawWorld hdraw
  exact ⟨⟨_, hfinished, rfl⟩, world, hparse, (hprinted _ true world hfinished hparse).2⟩

/-- The sample is generated, and its source is canonical. So is the drawing of the meadow, which is
read by the basic rules although it was never generated. -/
theorem generated_source_canonical_sample :
    (∃ source rng, generateWorld Draft.sampleRng = some (source, rng) ∧
      (∃ canvas : Canvas, canvas.Finished ∧ canvas.render = source) ∧
        ∃ world, WorldMap.parse source true = .ok world ∧ world.text = source) ∧
      meadow.Finished ∧ WorldMap.parse meadow.render false = .ok meadow.world ∧
        meadow.world.text = meadow.render := by
  constructor
  · obtain ⟨sketch, hattempt, -, -, hparse⟩ := exists_sample
    have hfound := generateWorld_eq_some_iff.2 ⟨1, generateWithin_one hattempt hparse⟩
    exact ⟨_, _, hfound, generated_source_canonical.1 _ _ _ hfound⟩
  · have hparse : WorldMap.parse meadow.render false = .ok meadow.world := by
      rw [finished_meadow.render_eq]
      exact drawable_meadow.parse_text nofun
    exact ⟨finished_meadow, hparse,
      (generated_source_canonical.2 meadow false meadow.world finished_meadow hparse).2⟩

end Formicary
