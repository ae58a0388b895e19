import Formicary.Proofs.Region.Rhombus

/-!
# Legal food

The food check cuts blobs out of a picture until nothing is left or no blob fits, and never takes a
choice back. Here its loop is a relation (`Silhouette.CutUp`) that counts the rounds and knows
neither a bound for them nor the check of the number of cells before the loop.

* `Silhouette.CutUp.count`: each blob takes as many cells as the number of cells must be divisible
  by, which bounds the rounds;
* `Silhouette.CutUp.exists_tiledBy`: where the loop ends well, the cells were a disjoint union of
  rhombi;
* `Silhouette.CutUp.image_move`: the loop takes the same rounds when all cells have been moved by
  the same vector, although the pictures differ;
* `Silhouette.hasLegalFood_tiled` and `Silhouette.hasLegalFood_image_walk` say this of the check.
-/

namespace Formicary

namespace Hex

/-- A set of cells is the disjoint union of some rhombi, given by their first cells and axes. -/
structure TiledBy (S : Set Hex) (blobs : List (Hex × Direction × Direction)) : Prop where
  /-- The axes are those of legal blobs. -/
  axes_mem : ∀ blob ∈ blobs, blob.2 ∈ foodAxes
  /-- No two of the rhombi have a cell in common. -/
  disjoint : blobs.Pairwise fun blob blob' =>
    ∀ h ∈ rhombus blob.1 blob.2, h ∉ rhombus blob'.1 blob'.2
  /-- The cells of the set are those of the rhombi. -/
  mem_iff : ∀ h, h ∈ S ↔ ∃ blob ∈ blobs, h ∈ rhombus blob.1 blob.2

variable {S : Set Hex} {a : Hex} {axes : Direction × Direction}
  {blobs : List (Hex × Direction × Direction)}

/-- A rhombus that belongs to a set is put before the rhombi that make up the rest of the set. -/
theorem TiledBy.cons (haxes : axes ∈ foodAxes) (hsub : rhombus a axes ⊆ S)
    (hrest : TiledBy (S \ rhombus a axes) blobs) : TiledBy S ((a, axes) :: blobs) where
  axes_mem := List.forall_mem_cons.2 ⟨haxes, hrest.axes_mem⟩
  disjoint := by
    refine List.pairwise_cons.2 ⟨fun blob hblob h hh hh' => ?_, hrest.disjoint⟩
    -- The other rhombi lie in what is left when the first has been taken away.
    exact ((hrest.mem_iff h).2 ⟨blob, hblob, hh'⟩).2 hh
  mem_iff h := by
    by_cases hh : h ∈ rhombus a axes
    · exact iff_of_true (hsub hh) ⟨_, List.mem_cons_self, hh⟩
    · have hdiff : h ∈ S ↔ h ∈ S \ rhombus a axes := ⟨fun hS => ⟨hS, hh⟩, fun hS => hS.1⟩
      simp only [hdiff, hrest.mem_iff, List.mem_cons, exists_eq_or_imp, hh, false_or]

end Hex

namespace Silhouette

variable {s s' rest : Silhouette} {S : Set Hex} {answer answer' : Bool} {n n' width : Nat}
  {cells : List (Nat × Nat)}

/-- The loop of the food check ends after `n` rounds with an answer. Before each round it looks
whether something is left. -/
inductive CutUp : Nat → Silhouette → Bool → Prop where
  /-- Nothing is left. -/
  | done {s : Silhouette} (hempty : s.rows = []) : CutUp 0 s true
  /-- Something is left, and no blob fits. -/
  | stuck {s : Silhouette} (hne : s.rows ≠ []) (hnone : s.cutBlob = none) : CutUp 1 s false
  /-- A blob is cut out, and the loop goes on with what remains. -/
  | round {s rest : Silhouette} {n : Nat} {answer : Bool} (hne : s.rows ≠ [])
    (hcut : s.cutBlob = some rest) (hrest : CutUp n rest answer) : CutUp (n + 1) s answer

/-! ### The rounds -/

/-- The loop ends in one way only. -/
theorem CutUp.unique (h : CutUp n s answer) (h' : CutUp n' s answer') :
    n = n' ∧ answer = answer' := by
  -- On the rounds of the one loop. Whether the picture is empty, and whether a blob can be cut out
  -- of it, decides how the other loop goes on.
  induction h generalizing n' with
  | done hempty =>
    cases h' with
    | done => exact ⟨rfl, rfl⟩
    | stuck hne => exact absurd hempty hne
    | round hne => exact absurd hempty hne
  | stuck hne hnone =>
    cases h' with
    | done hempty => exact absurd hempty hne
    | stuck => exact ⟨rfl, rfl⟩
    | round _ hcut => cases hnone.symm.trans hcut
  | round hne hcut _ ih =>
    cases h' with
    | done hempty => exact absurd hempty hne
    | stuck _ hnone => cases hnone.symm.trans hcut
    | round _ hcut' hrest' =>
      obtain rfl := Option.some.inj (hcut.symm.trans hcut')
      obtain ⟨rfl, rfl⟩ := ih hrest'
      exact ⟨rfl, rfl⟩

/-- All stencils have lines of one length, and `blobCells` cells. -/
theorem foodStencils_count : ∀ oddTop : Bool, ∀ stencil ∈ foodStencils oddTop,
    Rectangular stencil (Silhouette.width ⟨stencil, 0⟩) ∧ cellCount ⟨stencil, 0⟩ = blobCells := by
  decide +kernel

/-- A round takes `blobCells` cells away, and what remains is rectangular. -/
theorem cutBlob_count (hrect : Rectangular s.rows width) (hcut : s.cutBlob = some rest) :
    (∃ width, Rectangular rest.rows width) ∧ rest.cellCount + blobCells = s.cellCount := by
  obtain ⟨stencil, hmem, hoverlay⟩ := List.exists_of_findSome?_eq_some hcut
  obtain ⟨hstencil, hcount⟩ := foodStencils_count _ stencil hmem
  rw [← hcount]
  exact cellCount_overlay hrect hstencil hoverlay

/-- From a rectangular picture the loop ends. -/
theorem exists_cutUp (hrect : Rectangular s.rows width) : ∃ n answer, CutUp n s answer := by
  -- Every round leaves fewer cells.
  induction hcells : s.cellCount using Nat.strong_induction_on generalizing s width with
  | _ count ih =>
    subst hcells
    by_cases hempty : s.rows = []
    · exact ⟨0, true, .done hempty⟩
    · cases hcut : s.cutBlob with
      | none => exact ⟨1, false, .stuck hempty hcut⟩
      | some rest =>
        obtain ⟨⟨width', hrect'⟩, hcount⟩ := cutBlob_count hrect hcut
        have hlt : rest.cellCount < s.cellCount := by
          rw [← hcount]
          exact Nat.lt_add_of_pos_right (by decide)
        obtain ⟨n, answer, hrest⟩ := ih _ hlt hrect' rfl
        exact ⟨n + 1, answer, .round hempty hcut hrest⟩

/-- Where the loop ends well, the rounds have taken all the cells; otherwise all rounds but the last
one have taken some of them. -/
theorem CutUp.count (h : CutUp n s answer) (hrect : Rectangular s.rows width) :
    if answer then s.cellCount = n * blobCells else n * blobCells ≤ s.cellCount + blobCells := by
  induction h generalizing width with
  | @done s hempty =>
    show s.rows.flatten.count true = 0 * blobCells
    rw [hempty, Nat.zero_mul]
    rfl
  | @stuck s hne hnone =>
    show 1 * blobCells ≤ s.cellCount + blobCells
    rw [Nat.one_mul]
    exact Nat.le_add_left ..
  | @round s rest n answer hne hcut _ ih =>
    obtain ⟨⟨width', hrect'⟩, hcount⟩ := cutBlob_count hrect hcut
    have hrest := ih hrect'
    rw [← hcount, Nat.succ_mul]
    cases answer with
    | false => exact Nat.add_le_add_right hrest _
    | true => exact congrArg (· + blobCells) hrest

theorem CutUp.rounds_le (h : CutUp n s answer) (hrect : Rectangular s.rows width) :
    n ≤ s.cellCount / blobCells + 1 := by
  have hcount := h.count hrect
  have hpos : 0 < blobCells := by decide
  rw [← Nat.add_div_right _ hpos, Nat.le_div_iff_mul_le hpos]
  cases answer with
  | false => exact hcount
  | true =>
    rw [if_pos rfl] at hcount
    omega

/-- With fewer rounds allowed than would be enough, the loop only says that something is left. -/
theorem CutUp.consume_eq (h : CutUp n s answer) (rounds : Nat) :
    consume rounds s = (answer && decide (n < rounds)) := by
  induction h generalizing rounds with
  | done hempty =>
    cases rounds with
    | zero => rfl
    | succ rounds => simp [consume, hempty]
  | stuck hne hnone =>
    cases rounds with
    | zero => rfl
    | succ rounds => simp [consume, hne, hnone]
  | round hne hcut _ ih =>
    cases rounds with
    | zero => simp [consume]
    | succ rounds => simp [consume, hne, hcut, ih]

/-- The food check gives the answer of the loop. Where the number of cells is not divisible by
`blobCells`, the loop would not end well either. -/
theorem CutUp.hasLegalFood_eq (h : CutUp n s answer) (hrect : Rectangular s.rows width) :
    s.hasLegalFood = answer := by
  have hcount := h.count hrect
  rw [hasLegalFood, h.consume_eq]
  cases answer with
  | false => rw [Bool.false_and, Bool.and_false]
  | true =>
    -- As many rounds are allowed as there are blobs, and one more to see that nothing is left.
    have hpos : 0 < blobCells := by decide
    rw [if_pos rfl] at hcount
    rw [hcount, Nat.mul_mod_left, Nat.mul_div_cancel _ hpos, decide_eq_true (Nat.lt_succ_self n)]
    rfl

/-! ### The cells -/

theorem remains_ofCells (cells : List (Nat × Nat)) : (ofCells cells).Remains (cellsAt cells) := by
  rcases eq_or_ne cells [] with rfl | hne
  · refine Or.inl ⟨rfl, Set.eq_empty_of_forall_notMem ?_⟩
    rintro x ⟨cell, hcell, -⟩
    cases hcell
  · exact Or.inr (depicts_ofCells hne)

theorem Remains.rectangular (h : s.Remains S) : ∃ width, Rectangular s.rows width := by
  rcases h with ⟨hempty, -⟩ | h
  · exact ⟨0, by simp [hempty, Rectangular]⟩
  · exact ⟨_, h.tight.rectangular⟩

/-- A picture without lines shows the empty set, and no other picture does. -/
theorem Remains.eq_empty_iff (h : s.Remains S) : s.rows = [] ↔ S = ∅ := by
  rcases h with ⟨hrows, hS⟩ | h
  · exact iff_of_true hrows hS
  · refine iff_of_false (List.ne_nil_of_length_pos h.tight.length_pos) ?_
    rintro rfl
    obtain ⟨_, _, -, hfirst, -⟩ := h.exists_firstMark
    exact hfirst.1

/-- A picture with lines shows a set with a first cell. -/
theorem Remains.exists_isFirst (h : s.Remains S) (hne : s.rows ≠ []) :
    s.Depicts S ∧ ∃ a, Hex.IsFirst S a := by
  rcases h with ⟨hempty, -⟩ | h
  · exact absurd hempty hne
  · obtain ⟨_, _, -, hfirst, -⟩ := h.exists_firstMark
    exact ⟨h, _, hfirst⟩

/-- Where the loop ends well, it has cut the cells up into rhombi. -/
theorem CutUp.exists_tiledBy (h : CutUp n s true) (hs : s.Remains S) :
    ∃ blobs, Hex.TiledBy S blobs := by
  generalize hanswer : true = answer at h
  -- The set is what is left before the round; the rhombus cut out is put before the later ones.
  induction h generalizing S with
  | done hempty =>
    obtain rfl := hs.eq_empty_iff.1 hempty
    exact ⟨[], ⟨by simp, List.Pairwise.nil, by simp⟩⟩
  | stuck => cases hanswer
  | round hne hcut _ ih =>
    obtain ⟨hdepicts, a, ha⟩ := hs.exists_isFirst hne
    rcases hdepicts.cutBlob_cases ha with ⟨axes, rest, hfit, hcut', hrest⟩ | ⟨-, hnone⟩
    · obtain rfl := Option.some.inj (hcut.symm.trans hcut')
      obtain ⟨blobs, hblobs⟩ := ih hrest hanswer
      obtain ⟨haxes, hsub⟩ := Hex.firstFit_spec hfit
      exact ⟨_, hblobs.cons haxes hsub⟩
    · cases hcut.symm.trans hnone

/-- Something is left of a set if and only if something is left of the moved set. -/
theorem Remains.rows_eq_nil_iff {v : Int × Int} (hs : s.Remains S)
    (hs' : s'.Remains ((fun x : Hex => x.move v) '' S)) : s'.rows = [] ↔ s.rows = [] := by
  rw [hs'.eq_empty_iff, Set.image_eq_empty, hs.eq_empty_iff]

/-- A round goes the same way when all the cells have been moved by the same vector: at the first
cells of both sets the same rhombus is cut out, or none. -/
theorem Remains.cutBlob_move {v : Int × Int} (hs : s.Remains S)
    (hs' : s'.Remains ((fun x : Hex => x.move v) '' S)) (hne : s.rows ≠ []) :
    (s.cutBlob = none ∧ s'.cutBlob = none) ∨
    ∃ rest rest' T, s.cutBlob = some rest ∧ s'.cutBlob = some rest' ∧ rest.Remains T ∧
      rest'.Remains ((fun x : Hex => x.move v) '' T) := by
  have hne' : s'.rows ≠ [] := mt (hs.rows_eq_nil_iff hs').1 hne
  obtain ⟨hdepicts, a, ha⟩ := hs.exists_isFirst hne
  obtain ⟨hdepicts', -⟩ := hs'.exists_isFirst hne'
  -- The two pictures may have other stencils to choose from, but the same rhombi.
  have hmoved := hdepicts'.cutBlob_cases (ha.move v)
  rw [Hex.firstFit_move] at hmoved
  rcases hdepicts.cutBlob_cases ha with ⟨axes, rest, hfit, hcut, hrest⟩ | ⟨hfit, hnone⟩
  · rw [hfit] at hmoved
    rcases hmoved with ⟨_, rest', hfit', hcut', hrest'⟩ | ⟨hfit', -⟩
    · obtain rfl := Option.some.inj hfit'
      rw [← Hex.image_move_rhombus, ← Set.image_sdiff (Hex.injective_move v)] at hrest'
      exact Or.inr ⟨rest, rest', _, hcut, hcut', hrest, hrest'⟩
    · cases hfit'
  · rw [hfit] at hmoved
    rcases hmoved with ⟨_, _, hfit', -⟩ | ⟨-, hnone'⟩
    · cases hfit'
    · exact Or.inl ⟨hnone, hnone'⟩

/-- The loop takes the same rounds and gives the same answer when all the cells have been moved by
the same vector. -/
theorem CutUp.image_move {v : Int × Int} (h : CutUp n s answer) (hs : s.Remains S)
    (hs' : s'.Remains ((fun x : Hex => x.move v) '' S)) : CutUp n s' answer := by
  -- On both sides the set is what is left before the round, so it changes with the round.
  induction h generalizing s' S with
  | done hempty => exact .done ((hs.rows_eq_nil_iff hs').2 hempty)
  | stuck hne hnone =>
    have hne' : s'.rows ≠ [] := mt (hs.rows_eq_nil_iff hs').1 hne
    rcases hs.cutBlob_move hs' hne with ⟨-, hnone'⟩ | ⟨_, _, _, hcut, -⟩
    · exact .stuck hne' hnone'
    · cases hnone.symm.trans hcut
  | round hne hcut _ ih =>
    have hne' : s'.rows ≠ [] := mt (hs.rows_eq_nil_iff hs').1 hne
    rcases hs.cutBlob_move hs' hne with ⟨hnone, -⟩ | ⟨_, _, T, hcut₁, hcut', hrest, hrest'⟩
    · cases hnone.symm.trans hcut
    · obtain rfl := Option.some.inj (hcut.symm.trans hcut₁)
      exact .round hne' hcut' (ih hrest hrest')

/-! ### The food check -/

/-- The food check is sound: cells that pass are a disjoint union of rhombi of five by five cells.
On every rectangular picture the loop ends after one round more than there are blobs in the number
of cells, at most, and the check gives the answer of the loop. -/
theorem hasLegalFood_tiled :
    (∀ cells : List (Nat × Nat), (ofCells cells).hasLegalFood = true →
      ∃ blobs, Hex.TiledBy (cellsAt cells) blobs) ∧
    ∀ (s : Silhouette) (width : Nat), Rectangular s.rows width →
      ∃ rounds ≤ s.cellCount / blobCells + 1, ∀ n answer,
        CutUp n s answer ↔ n = rounds ∧ answer = s.hasLegalFood := by
  constructor
  · intro cells hlegal
    have hremains := remains_ofCells cells
    obtain ⟨width, hrect⟩ := hremains.rectangular
    obtain ⟨n, answer, hloop⟩ := exists_cutUp hrect
    rw [hloop.hasLegalFood_eq hrect] at hlegal
    subst hlegal
    exact hloop.exists_tiledBy hremains
  · intro s width hrect
    obtain ⟨rounds, answer, hloop⟩ := exists_cutUp hrect
    refine ⟨rounds, hloop.rounds_le hrect, fun n answer' => ?_⟩
    rw [hloop.hasLegalFood_eq hrect]
    constructor
    · exact fun h => h.unique hloop
    · rintro ⟨rfl, rfl⟩
      exact hloop

/-- The cells of two blobs, one under the other: on each of ten rows five cells, half a cell
further to the right than those above. -/
def stackedCells (top : Nat) : List (Nat × Nat) :=
  (List.range 10).flatMap fun r => (List.range 5).map fun k => (top + r, (top + r) / 2 + k)

/-- Of two blobs, one under the other, the lower one begins on a row of the other parity. They pass,
so they are rhombi. Two cells that touch at a corner of their box end the loop in its first round,
on an odd row. -/
theorem hasLegalFood_tiled_stacked :
    ((ofCells (stackedCells 0)).hasLegalFood = true ∧
      ∃ blobs, Hex.TiledBy (cellsAt (stackedCells 0)) blobs) ∧
    (Rectangular [[false, true], [true, false]] 2 ∧
      ∃ rounds ≤ cellCount ⟨[[false, true], [true, false]], 3⟩ / blobCells + 1, ∀ n answer,
        CutUp n ⟨[[false, true], [true, false]], 3⟩ answer ↔ n = rounds ∧
          answer = hasLegalFood ⟨[[false, true], [true, false]], 3⟩) ∧
    CutUp 1 ⟨[[false, true], [true, false]], 3⟩ false := by
  have hlegal : (ofCells (stackedCells 0)).hasLegalFood = true := by decide +kernel
  have hrect : Rectangular [[false, true], [true, false]] 2 := by decide
  exact ⟨⟨hlegal, hasLegalFood_tiled.1 _ hlegal⟩,
    ⟨hrect, hasLegalFood_tiled.2 ⟨[[false, true], [true, false]], 3⟩ 2 hrect⟩,
    .stuck (by decide) (by decide +kernel)⟩

/-- Whether food is legal does not depend on where it lies: when all cells have walked the same way,
on rows of the same parity or not, the check gives the same answer. -/
theorem hasLegalFood_image_walk (cells cells' : List (Nat × Nat)) (ds : List Direction)
    (hwalk : cellsAt cells' = (fun h : Hex => h.walk ds) '' cellsAt cells) :
    (ofCells cells').hasLegalFood = (ofCells cells).hasLegalFood := by
  have hremains := remains_ofCells cells
  have hremains' := remains_ofCells cells'
  obtain ⟨width, hrect⟩ := hremains.rectangular
  obtain ⟨width', hrect'⟩ := hremains'.rectangular
  obtain ⟨n, answer, hloop⟩ := exists_cutUp hrect
  simp only [hwalk, Hex.walk_eq_move ds] at hremains'
  rw [hloop.hasLegalFood_eq hrect, (hloop.image_move hremains hremains').hasLegalFood_eq hrect']

theorem cellsAt_stackedCells_succ (top : Nat) : cellsAt (stackedCells (top + 1)) =
    (fun h : Hex => h.walk [.southEast]) '' cellsAt (stackedCells top) := by
  have hmem : ∀ top x, x ∈ cellsAt (stackedCells top) ↔
      ∃ r < 10, ∃ k < 5, (⟨(top + r : Nat), ((top + r) / 2 + k : Nat)⟩ : Hex) = x := by
    simp [cellsAt, stackedCells]
  have hstep : ∀ r k : Nat, (⟨(top + 1 + r : Nat), ((top + 1 + r) / 2 + k : Nat)⟩ : Hex) =
      Hex.walk ⟨(top + r : Nat), ((top + r) / 2 + k : Nat)⟩ [.southEast] := by
    intro r k
    show _ = (⟨(top + r : Nat) + 1, ((top + r) / 2 + k : Nat) + (top + r : Nat) % 2⟩ : Hex)
    rw [Hex.mk.injEq]
    omega
  ext x
  simp only [hmem, hstep, Set.mem_image]
  constructor
  · rintro ⟨r, hr, k, hk, rfl⟩
    exact ⟨_, ⟨r, hr, k, hk, rfl⟩, rfl⟩
  · rintro ⟨_, ⟨r, hr, k, hk, rfl⟩, rfl⟩
    exact ⟨r, hr, k, hk, rfl⟩

/-- Two blobs, one under the other, pass on an even and on an odd row. -/
theorem hasLegalFood_image_walk_stacked :
    cellsAt (stackedCells 1) =
        (fun h : Hex => h.walk [.southEast]) '' cellsAt (stackedCells 0) ∧
      (ofCells (stackedCells 1)).hasLegalFood = (ofCells (stackedCells 0)).hasLegalFood ∧
      (ofCells (stackedCells 0)).hasLegalFood = true :=
  ⟨cellsAt_stackedCells_succ 0,
    hasLegalFood_image_walk _ _ [.southEast] (cellsAt_stackedCells_succ 0), by decide +kernel⟩

end Silhouette

end Formicary
