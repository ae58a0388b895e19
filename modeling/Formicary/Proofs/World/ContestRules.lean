import Formicary.Proofs.Generator.Attempt
import Formicary.Proofs.Region.Hexagon
import Formicary.Proofs.World.Rule

/-!
# The contest rules

The contest rules speak of connected regions, of hexagons and of counts of cells
(`WorldMap.contestRules`); the code that checks them fills, crops and compares pictures. It accepts
just the worlds that keep all rules, and of any other world it reports the first rule that is
broken, with the counts and cells of that world (`WorldMap.checkContest_verdict`).

There is one lemma for each part of the check, which says which of the rules it checks. The regions
of a kind are known by their pictures alone: a hill is recognised because only a hexagon has the
picture of one (`Silhouette.Depicts.isLegalHill_iff`).

A world of which rocks and hills have been drawn as a contest world has them keeps all rules but the
last two (`WorldMap.kept_of_landscape`), and with another number of food blobs it is refused for the
number of its cells with food (`WorldMap.checkContest_landscape`).
-/

namespace Formicary

namespace WorldMap

variable {world : WorldMap} {color : Color} {x : Hex}

/-! ### The rules -/

/-- The cells with food, whatever its amount. -/
def foodCells (world : WorldMap) : Set Hex := {x | ∃ amount, world.tile? x = some (.food amount)}

/-- The hill of a colony keeps its distance. A cell that it touches and should not touch is
reported. -/
def seclusionRule (world : WorldMap) (color : Color) : Rule where
  Kept := world.Secluded color
  Reports e := ∃ x, world.tile? x = some (.hill color) ∧ ∃ row col : Nat, x.Adjacent ⟨row, col⟩ ∧
    (world.tile? ⟨row, col⟩ = some .rock ∨ world.tile? ⟨row, col⟩ = some (.hill color.other)) ∧
    e = .hillAdjacency row col

/-- The hill cells of a colony make one region. The number of regions is reported. -/
def soleHillRule (world : WorldMap) (color : Color) : Rule where
  Kept := ∃! R, Hex.IsRegion (world.cellsOf (.hill color)) R
  Reports e := e = .hillCount color {R | Hex.IsRegion (world.cellsOf (.hill color)) R}.ncard

/-- The hill of a colony is a full hexagon of radius six, which has 127 cells. -/
def hexagonRule (world : WorldMap) (color : Color) : Rule where
  Kept := ∀ R, Hex.IsRegion (world.cellsOf (.hill color)) R →
    ∃ centre, R = Hex.ball centre 6 ∧ R.ncard = 127
  Reports e := e = .hillShape color

/-- There are 15 regions of rock. Their number is reported. -/
def rockRule (world : WorldMap) : Rule where
  Kept := {R | Hex.IsRegion (world.cellsOf .rock) R}.ncard = 15
  Reports e := e = .rockRegionCount {R | Hex.IsRegion (world.cellsOf .rock) R}.ncard

/-- All food is of amount five. The first cell with another amount is reported. -/
def amountRule (world : WorldMap) : Rule where
  Kept := ∀ x amount, world.tile? x = some (.food amount) → amount = 5
  Reports e := ∃ row col amount : Nat, world.tile? ⟨row, col⟩ = some (.food amount) ∧ amount ≠ 5 ∧
    (∀ x earlier, x.Precedes ⟨row, col⟩ → world.tile? x = some (.food earlier) → earlier = 5) ∧
    e = .foodQuantity row col amount

/-- There are 275 cells with food. Their number is reported. -/
def foodCountRule (world : WorldMap) : Rule where
  Kept := world.foodCells.ncard = 275
  Reports e := e = .foodCount world.foodCells.ncard

/-- The picture of every region of food can be cut up into blobs. -/
def foodShapeRule (world : WorldMap) : Rule where
  Kept := ∀ R, Hex.IsRegion world.foodCells R →
    ∃ picture : Silhouette, picture.Depicts R ∧ picture.hasLegalFood = true
  Reports e := e = .foodShape

/-- The contest rules, in the order in which they are checked. -/
def contestRules (world : WorldMap) : List Rule :=
  [world.seclusionRule .red, world.soleHillRule .red, world.seclusionRule .black,
    world.soleHillRule .black, world.hexagonRule .red, world.hexagonRule .black, world.rockRule,
    world.amountRule, world.foodCountRule, world.foodShapeRule]

/-! ### Hills -/

/-- As many regions are listed as there are. -/
theorem ncard_regions {S : Set Hex} {parts : List (Set Hex)} (h : Hex.RegionsInOrder S parts) :
    {R | Hex.IsRegion S R}.ncard = parts.length := by
  rw [← ncard_setOf_mem h.nodup]
  congr 1
  ext R
  exact (h.mem_iff R).symm

/-- A set has one region if one is listed. -/
theorem existsUnique_region_iff {S : Set Hex} {parts : List (Set Hex)}
    (h : Hex.RegionsInOrder S parts) : (∃! R, Hex.IsRegion S R) ↔ parts.length = 1 := by
  simp only [← h.mem_iff]
  constructor
  · rintro ⟨R, hR, hunique⟩
    -- All that is listed is this region, and nothing is listed twice.
    have hreplicate : parts = List.replicate parts.length R := List.eq_replicate_of_mem hunique
    have hle := List.nodup_replicate.1 (hreplicate ▸ h.nodup)
    have hpos := List.length_pos_of_mem hR
    omega
  · intro hlength
    obtain ⟨R, rfl⟩ := List.length_eq_one_iff.1 hlength
    exact ⟨R, List.mem_singleton_self R, fun R' hR' => List.mem_singleton.1 hR'⟩

/-- The hill of a colony is looked for among the pictures of its regions. -/
theorem exists_soleHill_eq (hworld : world.WellFormed) (hsecluded : world.Secluded color) :
    ∃ parts boxes, Hex.RegionsInOrder (world.cellsOf (.hill color)) parts ∧
      List.Forall₂ Silhouette.Depicts boxes parts ∧
      world.soleHill color = match boxes with
        | [hill] => .ok hill
        | _ => .error (.hillCount color boxes.length) := by
  obtain ⟨parts, boxes, hok, hparts, hdepicts, -⟩ :=
    exists_regions hworld (.hill color) fun c hc => Tile.hill.inj hc ▸ hsecluded
  refine ⟨parts, boxes, hparts, hdepicts, ?_⟩
  rw [soleHill, hok]
  rfl

/-- Looking for the hill of a colony checks that it is secluded and in one piece. -/
theorem verdict_soleHill (hworld : world.WellFormed) (color : Color) :
    Verdict [world.seclusionRule color, world.soleHillRule color] (world.soleHill color) := by
  by_cases hsecluded : world.Secluded color
  · refine .next hsecluded ?_
    obtain ⟨parts, boxes, hparts, hdepicts, hsole⟩ := exists_soleHill_eq hworld hsecluded
    have hlength := hdepicts.length_eq
    have hkept : (world.soleHillRule color).Kept ↔ parts.length = 1 :=
      existsUnique_region_iff hparts
    have hreports : (world.soleHillRule color).Reports (.hillCount color boxes.length) := by
      rw [hlength, ← ncard_regions hparts]
      rfl
    rw [hsole]
    split
    · exact .next (hkept.2 hlength.symm) (.pass _)
    · rename_i hmany
      refine .breach (fun hk => ?_) hreports
      obtain ⟨hill, rfl⟩ := List.length_eq_one_iff.1 (hlength.trans (hkept.1 hk))
      exact hmany hill rfl
  · obtain ⟨x, hx, row, col, hadjacent, htile, herror⟩ := regions_eq_error hworld hsecluded
    rw [soleHill, herror]
    exact .breach hsecluded ⟨x, hx, row, col, hadjacent, htile, rfl⟩

/-- The hill that is found is the picture of the only region. -/
theorem depicts_of_soleHill (hworld : world.WellFormed) {hill : Silhouette}
    (h : world.soleHill color = .ok hill) :
    ∃ R, hill.Depicts R ∧ ∀ R', Hex.IsRegion (world.cellsOf (.hill color)) R' ↔ R' = R := by
  have hkept := (verdict_soleHill hworld color).exists_ok_iff.1 ⟨hill, h⟩
  obtain ⟨parts, boxes, hparts, hdepicts, hsole⟩ :=
    exists_soleHill_eq hworld (hkept _ List.mem_cons_self)
  rw [hsole] at h
  split at h
  · obtain rfl := Except.ok.inj h
    obtain ⟨R, rest, hshown, hrest, rfl⟩ := List.forall₂_cons_left_iff.1 hdepicts
    obtain rfl := List.forall₂_nil_left_iff.1 hrest
    exact ⟨R, hshown, fun R' => by rw [← hparts.mem_iff, List.mem_singleton]⟩
  · cases h

/-- The picture of a hill is legal if the hill is a hexagon. -/
theorem hexagonRule_kept_iff (hworld : world.WellFormed) {hill : Silhouette}
    (h : world.soleHill color = .ok hill) :
    (world.hexagonRule color).Kept ↔ ¬(!hill.isLegalHill) = true := by
  obtain ⟨R, hdepicts, hregion⟩ := depicts_of_soleHill hworld h
  rw [Bool.not_eq_true, Bool.not_eq_false', hdepicts.isLegalHill_iff]
  simp only [hexagonRule, hregion, forall_eq]
  constructor
  · rintro ⟨centre, hball, -⟩
    exact ⟨centre, hball⟩
  · rintro ⟨centre, rfl⟩
    exact ⟨centre, rfl, Hex.ncard_ball_six centre⟩

/-! ### Rocks and food -/

theorem cellsOf_food (amount : Nat) : world.cellsOf (.food amount) = world.foodCells := by
  have hkind : ∀ tile : Tile, tile.sameKind (.food amount) = true ↔ ∃ n, tile = .food n := by
    intro tile
    cases tile <;> simp [Tile.sameKind]
  ext x
  simp only [cellsOf, foodCells, Set.mem_ofPred_eq, hkind]
  constructor
  · rintro ⟨_, htile, amount, rfl⟩
    exact ⟨amount, htile⟩
  · rintro ⟨amount, htile⟩
    exact ⟨_, htile, amount, rfl⟩

/-- As many rocks are found as there are regions of rock. -/
theorem exists_rocks (hworld : world.WellFormed) : ∃ rocks, world.components .rock = .ok rocks ∧
    rocks.length = {R | Hex.IsRegion (world.cellsOf .rock) R}.ncard := by
  obtain ⟨rocks, hrocks, -⟩ :=
    components_eq_ok hworld (not_mem_forbidden .rock fun _ h => by cases h)
  exact ⟨rocks, hrocks, length_components hworld hrocks⟩

/-- The first cell in a list that has the wrong amount of food is reported. -/
theorem countFood_append {count i amount : Nat} {before after : List Nat}
    (hbefore : ∀ j ∈ before, ∀ amount, world.tiles.getD j .rock = .food amount →
      amount = contestFood)
    (htile : world.tiles.getD i .rock = .food amount) (hamount : amount ≠ contestFood) :
    world.countFood count (before ++ i :: after) =
      .error (.foodQuantity (i / world.width) (i % world.width) amount) := by
  induction before generalizing count with
  | nil =>
    rw [List.nil_append, countFood]
    simp only [htile, if_neg hamount]
  | cons j before ih =>
    obtain ⟨hj, hrest⟩ := List.forall_mem_cons.1 hbefore
    rw [List.cons_append, countFood]
    split
    next amount' htile' => rw [if_pos (hj amount' htile'), ih hrest]
    next => exact ih hrest

/-- Of the numbers below a bound the smaller ones come first. -/
theorem mem_before_of_lt {n i j : Nat} {before after : List Nat}
    (hrange : List.range n = before ++ i :: after) (hj : j < n) (hlt : j < i) : j ∈ before := by
  have hsorted : (before ++ i :: after).Pairwise (· < ·) := hrange ▸ List.pairwise_lt_range
  have hafter := (List.pairwise_cons.1 (List.pairwise_append.1 hsorted).2.1).1
  have hmem : j ∈ before ++ i :: after := hrange ▸ List.mem_range.2 hj
  rcases List.mem_append.1 hmem with hbefore | hrest
  · exact hbefore
  · rcases List.mem_cons.1 hrest with rfl | hlater
    · exact absurd hlt (Nat.lt_irrefl _)
    · exact absurd (hafter j hlater) (Nat.lt_asymm hlt)

/-- Counting the cells with food checks their amounts. -/
theorem verdict_countFood (hworld : world.WellFormed) :
    Verdict [world.amountRule]
      (world.countFood 0 (List.range (world.height * world.width))) := by
  have htile : ∀ i ∈ List.range (world.height * world.width),
      world.tile? (world.hex i) = some (world.tiles.getD i .rock) := fun i hi =>
    hworld.tile?_eq (world.index?_hex (List.mem_range.1 hi))
  rcases Text.exists_first_not
    (fun i => ∀ amount, world.tiles.getD i .rock = .food amount → amount = contestFood)
    (List.range (world.height * world.width)) with hall | ⟨before, i, after, hrange, hbefore, hi⟩
  · rw [countFood_eq hall]
    refine .next (fun x amount hx => ?_) (.pass _)
    obtain ⟨i, hindex⟩ := exists_index?_of_mem_cellsOf ⟨_, hx, sameKind_refl _⟩
    have hi : i ∈ List.range (world.height * world.width) :=
      List.mem_range.2 (Frame.lt_of_index? hindex)
    rw [hworld.tile?_eq hindex] at hx
    exact hall i hi amount (Option.some.inj hx)
  · push Not at hi
    obtain ⟨amount, hfood, hamount⟩ := hi
    rw [hrange, countFood_append hbefore hfood hamount]
    have hmem : i ∈ List.range (world.height * world.width) := by
      rw [hrange]
      exact List.mem_append_right _ List.mem_cons_self
    have hcell := (htile i hmem).trans (congrArg some hfood)
    refine .breach (fun hkept => hamount (hkept _ _ hcell)) ⟨_, _, amount, hcell, hamount, ?_, rfl⟩
    intro x earlier hprecedes hx
    -- What precedes the cell has a smaller number, so it has been counted before.
    obtain ⟨j, hindex⟩ := exists_index?_of_mem_cellsOf ⟨_, hx, sameKind_refl _⟩
    have hlt : j < i :=
      Frame.lt_of_precedes hindex (world.index?_hex (List.mem_range.1 hmem)) hprecedes
    have hj : j ∈ before := mem_before_of_lt hrange (Frame.lt_of_index? hindex) hlt
    rw [hworld.tile?_eq hindex] at hx
    exact hbefore j hj earlier (Option.some.inj hx)

/-- If all amounts are right, the number of cells with food is counted. -/
theorem countFood_eq_ncard (hworld : world.WellFormed) {count : Nat}
    (h : world.countFood 0 (List.range (world.height * world.width)) = .ok count) :
    count = world.foodCells.ncard := by
  have hkept : world.amountRule.Kept :=
    (verdict_countFood hworld).exists_ok_iff.1 ⟨count, h⟩ _ List.mem_cons_self
  rw [countFood_eq, countP_isFood hworld 5, cellsOf_food, Nat.zero_add] at h
  · exact (Except.ok.inj h).symm
  · intro i hi amount htile
    have hindex := world.index?_hex (List.mem_range.1 hi)
    exact hkept _ amount ((hworld.tile?_eq hindex).trans (congrArg some htile))

/-- Cutting up the pictures of all regions of food checks their shapes. -/
theorem exists_blobs (hworld : world.WellFormed) :
    ∃ blobs, world.regions (.food contestFood) = .ok blobs ∧
      (world.foodShapeRule.Kept ↔ ¬(!blobs.all Silhouette.hasLegalFood) = true) := by
  obtain ⟨parts, blobs, hok, hparts, hdepicts, -⟩ :=
    exists_regions hworld (.food contestFood) fun _ h => by cases h
  rw [cellsOf_food] at hparts
  refine ⟨blobs, hok, ?_⟩
  simp only [foodShapeRule, Bool.not_eq_true, Bool.not_eq_false', List.all_eq_true,
    ← hparts.mem_iff]
  clear hok hparts
  induction hdepicts with
  | nil => simp
  | @cons blob R blobs parts hshown _ ih =>
    rw [List.forall_mem_cons, List.forall_mem_cons, ih]
    -- The region has no other picture than the one that was taken.
    have hpicture : (∃ picture : Silhouette, picture.Depicts R ∧ picture.hasLegalFood = true) ↔
        blob.hasLegalFood = true := by
      constructor
      · rintro ⟨picture, hdepicts, hlegal⟩
        rw [← hdepicts.unique hshown]
        exact hlegal
      · exact fun hlegal => ⟨blob, hshown, hlegal⟩
    rw [hpicture]

/-! ### The check -/

/-- The contest rules are checked in their order. -/
theorem verdict_checkContest (hworld : world.WellFormed) :
    Verdict world.contestRules world.checkContest := by
  unfold checkContest
  refine (verdict_soleHill hworld .red).bind fun red hred => ?_
  refine (verdict_soleHill hworld .black).bind fun black hblack => ?_
  refine .guard (hexagonRule_kept_iff hworld hred) rfl ?_
  refine .guard (hexagonRule_kept_iff hworld hblack) rfl ?_
  obtain ⟨rocks, hrocks, hrockCount⟩ := exists_rocks hworld
  rw [hrocks]
  refine .ok_bind (.guard ?_ ?_ ?_)
  · rw [hrockCount, not_not]
    exact Iff.rfl
  · rw [hrockCount]
    rfl
  refine (verdict_countFood hworld).bind fun count hcount => ?_
  obtain rfl := countFood_eq_ncard hworld hcount
  refine .guard not_not.symm rfl ?_
  obtain ⟨blobs, hblobs, hshape⟩ := exists_blobs hworld
  rw [hblobs]
  exact .ok_bind (.guard (k := pure) hshape rfl (.pass ()))

/-! ### Worlds that are drawn -/

section Landscape

variable {canvas : Canvas} {nest : Color → Hex} {rocks : List (Set Hex)}
  {blobs : List Canvas.Blob}

/-- A landscape keeps the rules for hills and rocks, and all its food is of the right amount. -/
theorem kept_of_landscape (h : Sketch.Landscape canvas nest rocks blobs) :
    ∀ rule ∈ canvas.world.contestRules.take 8, rule.Kept := by
  have hseclusion (color : Color) : (canvas.world.seclusionRule color).Kept :=
    secluded_iff.2 fun _ hx d => Sketch.step_notMem_forbidden h.layout hx d
  have hsole (color : Color) : (canvas.world.soleHillRule color).Kept :=
    ⟨_, (Sketch.isRegion_hill_iff h.layout color).2 rfl,
      fun _ => (Sketch.isRegion_hill_iff h.layout color).1⟩
  have hhexagon (color : Color) : (canvas.world.hexagonRule color).Kept := by
    obtain ⟨hill, hfound, hlegal⟩ := h.exists_legal_hill color
    exact (hexagonRule_kept_iff h.layout.wellFormed.world hfound).2 (by simp [hlegal])
  have hamount : canvas.world.amountRule.Kept :=
    fun _ _ hfood => (h.layout.tile?_eq_food_iff.1 hfood).1
  simp only [contestRules, List.take_succ_cons, List.take_zero, List.forall_mem_cons]
  exact ⟨hseclusion .red, hsole .red, hseclusion .black, hsole .black, hhexagon .red,
    hhexagon .black, h.ncard_rocks, hamount, by simp⟩

/-- A landscape has 25 cells with food for every food blob. -/
theorem ncard_foodCells (h : Sketch.Landscape canvas nest rocks blobs) :
    canvas.world.foodCells.ncard = blobs.length * Silhouette.blobCells := by
  rw [← cellsOf_food contestFood, h.layout.ncard_food]

/-- A landscape has the right number of cells with food if it has eleven food blobs. -/
theorem foodCountRule_kept_iff (h : Sketch.Landscape canvas nest rocks blobs) :
    canvas.world.foodCountRule.Kept ↔ blobs.length = contestBlobs := by
  rw [foodCountRule, ncard_foodCells h]
  -- The 275 cells that the rule asks for are those of eleven blobs.
  simp only [Silhouette.blobCells, contestBlobs]
  omega

/-- A landscape with too few or too many food blobs is refused, and the number of its cells with
food is reported. -/
theorem checkContest_landscape (h : Sketch.Landscape canvas nest rocks blobs)
    (hblobs : blobs.length ≠ contestBlobs) :
    canvas.world.checkContest = .error (.foodCount (blobs.length * Silhouette.blobCells)) := by
  have hverdict : Verdict (canvas.world.contestRules.take 8 ++
      canvas.world.foodCountRule :: [canvas.world.foodShapeRule]) canvas.world.checkContest :=
    verdict_checkContest h.layout.wellFormed.world
  obtain ⟨e, rfl, herror⟩ :=
    hverdict.exists_report (kept_of_landscape h) ((foodCountRule_kept_iff h).not.2 hblobs)
  rw [herror, ncard_foodCells h]

end Landscape

/-! ### Acceptance -/

/-- A world is accepted if and only if it keeps all contest rules, and if it does not, what is
reported is the first of them that is broken. -/
theorem checkContest_verdict (hworld : world.WellFormed) :
    (world.checkContest = .ok () ↔ ∀ rule ∈ world.contestRules, rule.Kept) ∧
      Verdict world.contestRules world.checkContest := by
  have hverdict := verdict_checkContest hworld
  exact ⟨hverdict.eq_ok_iff, hverdict⟩

/-- Three worlds and what is reported of them. The small world, whose hill touches rock, breaks the
first of the rules. The sample, as long as no food is drawn, keeps the first eight rules and breaks
the ninth, so the number of its cells with food is reported. The whole sample keeps all rules. -/
theorem checkContest_verdict_sample :
    (outcrop.WellFormed ∧ ¬(outcrop.seclusionRule .red).Kept ∧ outcrop.checkContest ≠ .ok () ∧
        Verdict outcrop.contestRules outcrop.checkContest) ∧
      (∃ ground, Sketch.drawGround Draft.sampleRng = .ok ground ∧
        let world := ground.canvas.world
        world.WellFormed ∧ (∀ rule ∈ world.contestRules.take 8, rule.Kept) ∧
          ¬world.foodCountRule.Kept ∧ world.checkContest = .error (.foodCount 0) ∧
          Verdict world.contestRules world.checkContest) ∧
      ∃ sketch : Sketch,
        attemptWorld Draft.sampleRng = (some sketch.canvas.render, sketch.rng) ∧
        let world := sketch.canvas.world
        world.WellFormed ∧ world.checkContest = .ok () ∧
          (∀ rule ∈ world.contestRules, rule.Kept) ∧
          Verdict world.contestRules world.checkContest := by
  refine ⟨?_, ?_, ?_⟩
  · have hworld : outcrop.WellFormed := rfl
    have htouching : ¬(outcrop.seclusionRule .red).Kept := not_secluded_outcrop
    obtain ⟨hiff, hverdict⟩ := checkContest_verdict hworld
    exact ⟨hworld, htouching, fun hok => htouching (hiff.1 hok _ List.mem_cons_self), hverdict⟩
  · obtain ⟨ground, -, nest, rocks, -, ⟨hground, hland⟩, -⟩ :=
      Draft.exists_sketch Draft.foodCorners_sample
    have hworld := hland.layout.wellFormed.world
    have hfood : ¬ground.canvas.world.foodCountRule.Kept :=
      (foodCountRule_kept_iff hland).not.2 (by decide)
    exact ⟨ground, hground, hworld, kept_of_landscape hland, hfood,
      checkContest_landscape hland (by decide), (checkContest_verdict hworld).2⟩
  · obtain ⟨sketch, hattempt, hworld, hok, -⟩ := exists_sample
    obtain ⟨hiff, hverdict⟩ := checkContest_verdict hworld
    exact ⟨sketch, hattempt, hworld, hok, hiff.1 hok, hverdict⟩

end WorldMap

end Formicary
