import Formicary.Generator.Canvas
import Formicary.Proofs.Region.Connected
import Formicary.Proofs.Region.Silhouette

/-!
# The geometry of stamps

The places of a stamp are moved by fixed vectors of the lattice from the cell on which its corner
is put, whatever the parity of that cell's row (`Stamp.landing_eq`). So what has to be known about
a stamp is known from a table of vectors: its body is connected (`Stamp.connected_bodyAt`), and the
margin of rocks and hills covers all cells around the body (`Stamp.margined`).

Only the pictures depend on the parity: on each of the two, hills and food blobs look as the
contest rules ask for (`Stamp.hill_depicted`, `Stamp.food_depicted`).
-/

namespace Formicary

namespace Stamp

/-- The vector from the corner of a stamp to one of its places. -/
def vector (r c : Nat) : Int × Int := ((c : Int) - ((r : Int) + 1) / 2, r)

/-- The vectors from the corner to the places that are painted. -/
def body (stamp : Stamp) : List (Int × Int) :=
  stamp.places.filterMap fun (r, c, part) => if part = .body then some (vector r c) else none

/-- The vectors from the corner to all places that matter. -/
def cover (stamp : Stamp) : List (Int × Int) := stamp.places.map fun (r, c, _) => vector r c

/-- The cells that are painted when the corner is put on a cell. -/
def bodyAt (stamp : Stamp) (corner : Hex) : Set Hex := {h | ∃ v ∈ stamp.body, corner.move v = h}

/-- All lines have the same length. -/
def Rectangular (stamp : Stamp) : Prop := ∀ line ∈ stamp, line.length = stamp.width

/-- All cells around the body belong to the stamp. -/
def Margined (stamp : Stamp) : Prop :=
  ∀ v ∈ stamp.body, ∀ d : Direction, v + d.vector ∈ stamp.cover

/-- The part at a place of a stamp. -/
def partAt (stamp : Stamp) (r c : Nat) : StampPart := (stamp.getD r []).getD c .gap

/-- The place next to a place, both not on the first line and not at the start of their lines. -/
def beside (d : Direction) (r c : Nat) : Nat × Nat :=
  match d with
  | .east => (r, c + 1)
  | .southEast => (r + 1, c + 1 - r % 2)
  | .southWest => (r + 1, c - r % 2)
  | .west => (r, c - 1)
  | .northWest => (r - 1, c - r % 2)
  | .northEast => (r - 1, c + 1 - r % 2)

/-- There is a vector, and every vector but the last is one step away from a later one. -/
def Chained : List (Int × Int) → Prop
  | [] => False
  | [_] => True
  | v :: w :: vs => (∃ u ∈ w :: vs, ∃ d ∈ Direction.all, u + d.vector = v) ∧ Chained (w :: vs)

instance decidableChained : (vs : List (Int × Int)) → Decidable (Chained vs)
  | [] => isFalse id
  | [_] => isTrue trivial
  | v :: w :: vs =>
    have := decidableChained (w :: vs)
    inferInstanceAs
      (Decidable ((∃ u ∈ w :: vs, ∃ d ∈ Direction.all, u + d.vector = v) ∧ Chained (w :: vs)))

instance (stamp : Stamp) : Decidable stamp.Rectangular :=
  inferInstanceAs (Decidable (∀ line ∈ stamp, line.length = stamp.width))

/-! ### The tables -/

theorem rectangular : ∀ stamp ∈ hill :: rocks ++ foods, stamp.Rectangular := by
  decide +kernel

theorem chained : ∀ stamp ∈ hill :: rocks ++ foods, Chained stamp.body.reverse := by
  decide +kernel

theorem margin_table : ∀ stamp ∈ hill :: rocks, ∀ place ∈ stamp.places, place.2.2 = .body →
    1 ≤ place.1 ∧ 1 ≤ place.2.1 ∧ ∀ d ∈ Direction.all,
      stamp.partAt (beside d place.1 place.2.1).1 (beside d place.1 place.2.1).2 ≠ .gap := by
  decide +kernel

/-- A food blob has as many cells as the contest rules ask for. -/
theorem food_body : ∀ stamp ∈ foods,
    stamp.body.Nodup ∧ stamp.body.length = Silhouette.blobCells := by
  decide +kernel

/-- The lines and places on which the body of a stamp lands, counted from the corner, when the
corner lies on an odd or an even row. -/
def offsets (stamp : Stamp) (odd : Bool) : List (Nat × Nat) :=
  stamp.places.filterMap fun (r, c, part) =>
    if part = .body then some (r, c - if r % 2 = 1 ∧ odd = false then 1 else 0) else none

/-- On odd lines the body keeps off the first place. -/
theorem inset : ∀ stamp ∈ hill :: foods, ∀ place ∈ stamp.places, place.2.2 = .body →
    place.1 % 2 = 1 → 1 ≤ place.2.1 := by
  decide +kernel

/-- A hill stamp draws a legal hill: its body begins one line below the corner, on a row of the
other parity. -/
theorem hill_depicted : ∀ odd : Bool,
    hill.offsets odd = (Silhouette.shown (Silhouette.hillRows !odd) Silhouette.hillSize).map
        (fun place => (place.1 + 1, place.2 + if odd = true then 1 else 0)) ∧
      Silhouette.Tight (Silhouette.hillRows !odd) Silhouette.hillSize := by
  decide +kernel

/-- A food stamp draws one of the legal blobs. -/
theorem food_depicted : ∀ stamp ∈ foods, ∀ odd : Bool, ∃ rows ∈ Silhouette.foodStencils odd,
    stamp.offsets odd = Silhouette.shown rows stamp.width ∧ Silhouette.Tight rows stamp.width ∧
      Silhouette.hasLegalFood ⟨rows, if odd = true then 1 else 0⟩ = true := by
  decide +kernel

/-- The body of a food stamp takes up nine lines of seven places at most. -/
theorem food_extent : ∀ stamp ∈ foods, ∀ odd : Bool, ∀ place ∈ stamp.offsets odd,
    place.1 < 9 ∧ place.2 < 7 := by
  decide +kernel

/-! ### Places and vectors -/

variable {stamp : Stamp} {r c : Nat} {part : StampPart} {corner : Hex} {d : Direction}

/-- The places of a stamp are those that are no gap. -/
theorem mem_places_iff : (r, c, part) ∈ stamp.places ↔ part ≠ .gap ∧ stamp.partAt r c = part := by
  simp only [places, List.mem_flatMap, List.mem_filterMap, Prod.exists,
    List.mem_zipIdx_iff_getElem?, Option.ite_none_left_eq_some, Option.some.injEq, Prod.mk.injEq]
  constructor
  · rintro ⟨parts, r', hparts, part', c', hpart, hgap, rfl, rfl, rfl⟩
    exact ⟨hgap, by simp [partAt, hparts, hpart]⟩
  · rintro ⟨hgap, hpart⟩
    cases hparts : stamp[r]? with
    | none =>
      simp only [partAt, List.getD_eq_getElem?_getD, hparts] at hpart
      exact absurd hpart.symm hgap
    | some parts =>
      cases hc : parts[c]? with
      | none =>
        simp only [partAt, List.getD_eq_getElem?_getD, hparts, Option.getD_some, hc] at hpart
        exact absurd hpart.symm hgap
      | some part' =>
        simp only [partAt, List.getD_eq_getElem?_getD, hparts, Option.getD_some, hc] at hpart
        subst hpart
        exact ⟨parts, r, hparts, part', c, hc, hgap, rfl, rfl, rfl⟩

/-- The places of a rectangular stamp lie in its box. -/
theorem lt_of_mem_places (hstamp : stamp.Rectangular) (hplace : (r, c, part) ∈ stamp.places) :
    r < stamp.length ∧ c < stamp.width := by
  obtain ⟨hgap, hpart⟩ := mem_places_iff.1 hplace
  have hr : r < stamp.length := by
    by_contra hge
    simp only [partAt, List.getD_eq_getElem?_getD,
      List.getElem?_eq_none (Nat.le_of_not_lt hge)] at hpart
    exact hgap hpart.symm
  have hlength := hstamp stamp[r] (List.getElem_mem hr)
  refine ⟨hr, ?_⟩
  by_contra hge
  have hnone : stamp[r][c]? = none := List.getElem?_eq_none (by omega)
  simp only [partAt, List.getD_eq_getElem?_getD, List.getElem?_eq_getElem hr, Option.getD_some,
    hnone] at hpart
  exact hgap hpart.symm

theorem mem_body_iff {v : Int × Int} :
    v ∈ stamp.body ↔ ∃ r c, (r, c, StampPart.body) ∈ stamp.places ∧ vector r c = v := by
  simp only [body, List.mem_filterMap, Prod.exists, Option.ite_none_right_eq_some,
    Option.some.injEq]
  constructor
  · rintro ⟨r, c, part, hplace, rfl, hv⟩
    exact ⟨r, c, hplace, hv⟩
  · rintro ⟨r, c, hplace, hv⟩
    exact ⟨r, c, .body, hplace, rfl, hv⟩

theorem mem_cover_iff {v : Int × Int} :
    v ∈ stamp.cover ↔ ∃ r c part, (r, c, part) ∈ stamp.places ∧ vector r c = v := by
  simp only [cover, List.mem_map, Prod.exists]

theorem body_subset_cover {v : Int × Int} (hv : v ∈ stamp.body) : v ∈ stamp.cover := by
  obtain ⟨r, c, hplace, hvector⟩ := mem_body_iff.1 hv
  exact mem_cover_iff.2 ⟨r, c, .body, hplace, hvector⟩

/-- The place next to a place is one step away. -/
theorem vector_beside (hr : 1 ≤ r) (hc : 1 ≤ c) :
    vector (beside d r c).1 (beside d r c).2 = vector r c + d.vector := by
  cases d <;> refine Prod.ext ?_ ?_ <;>
    simp only [vector, beside, Direction.vector, Prod.fst_add, Prod.snd_add] <;> omega

/-- The margin of rocks and hills covers all cells around the body. -/
theorem margined : ∀ stamp ∈ hill :: rocks, stamp.Margined := by
  intro stamp hstamp v hv d
  obtain ⟨r, c, hplace, rfl⟩ := mem_body_iff.1 hv
  obtain ⟨hr, hc, hpart⟩ := margin_table stamp hstamp _ hplace rfl
  rw [← vector_beside hr hc]
  exact mem_cover_iff.2 ⟨_, _, _, mem_places_iff.2 ⟨hpart d d.mem_all, rfl⟩, rfl⟩

/-- A place of a stamp lands where its vector leads. -/
theorem landing_eq (hrow : 0 ≤ corner.row) (hcol : 0 ≤ corner.col)
    (hshift : corner.row % 2 = 1 ∨ 1 ≤ corner.col + c) :
    (⟨(Canvas.landing corner r c).1, (Canvas.landing corner r c).2⟩ : Hex) =
      corner.move (vector r c) := by
  simp only [Canvas.landing, Hex.move, vector, Hex.mk.injEq]
  refine ⟨by omega, ?_⟩
  split <;> omega

/-! ### Bodies -/

/-- Vectors that are chained lead from a cell to connected cells. -/
theorem connected_of_chained {vs : List (Int × Int)} (h : Chained vs) (corner : Hex) :
    Hex.Connected {x | ∃ v ∈ vs, corner.move v = x} := by
  have hsingle (v : Int × Int) : Hex.Connected {x | ∃ w ∈ [v], corner.move w = x} := by
    refine Hex.connected_of_joined ⟨v, List.mem_singleton_self v, rfl⟩ ?_
    rintro x ⟨w, hw, rfl⟩
    rw [List.mem_singleton.1 hw]
    exact .refl
  induction vs with
  | nil => exact h.elim
  | cons v vs ih =>
    cases vs with
    | nil => exact hsingle v
    | cons w vs =>
      -- The first vector of a chain leads next to where a later one leads.
      obtain ⟨⟨u, hu, d, -, rfl⟩, hrest⟩ := h
      have hadjacent : (corner.move u).Adjacent (corner.move (u + d.vector)) :=
        ⟨d, Direction.step_move d corner u⟩
      have hunion := (ih hrest).union (hsingle (u + d.vector)) ⟨u, hu, rfl⟩
        ⟨_, List.mem_singleton_self _, rfl⟩ (Or.inr hadjacent)
      have hset : {x | ∃ v ∈ (u + d.vector) :: w :: vs, corner.move v = x} =
          {x | ∃ v ∈ w :: vs, corner.move v = x} ∪
            {x | ∃ v ∈ [u + d.vector], corner.move v = x} := by
        ext x
        rw [Set.mem_union]
        constructor
        · rintro ⟨v, hv, rfl⟩
          rcases List.mem_cons.1 hv with rfl | hv
          · exact Or.inr ⟨_, List.mem_singleton_self _, rfl⟩
          · exact Or.inl ⟨v, hv, rfl⟩
        · rintro (⟨v, hv, rfl⟩ | ⟨v, hv, rfl⟩)
          · exact ⟨v, List.mem_cons_of_mem _ hv, rfl⟩
          · exact ⟨v, List.mem_cons.2 (Or.inl (List.mem_singleton.1 hv)), rfl⟩
      rw [hset]
      exact hunion

/-- The body of a stamp is connected, wherever it is put. -/
theorem connected_bodyAt (hstamp : stamp ∈ hill :: rocks ++ foods) (corner : Hex) :
    Hex.Connected (stamp.bodyAt corner) := by
  have hconnected := connected_of_chained (chained stamp hstamp) corner
  simpa only [bodyAt, List.mem_reverse] using hconnected

/-! ### Silhouettes of bodies -/

/-- The row and column of a cell that can be reached from a cell with row and column. -/
theorem mem_bodyAt_iff {x : Hex} (hrow : 0 ≤ corner.row) (hcol : 0 ≤ corner.col)
    (hinset : ∀ place ∈ stamp.places, place.2.2 = .body → place.1 % 2 = 1 → 1 ≤ place.2.1) :
    x ∈ stamp.bodyAt corner ↔ ∃ place ∈ stamp.offsets (corner.row % 2 == 1),
      x = ⟨(corner.row.toNat + place.1 : Nat), (corner.col.toNat + place.2 : Nat)⟩ := by
  -- The column of a row that lies further left is not cut off at zero.
  have hmove : ∀ r c, (r % 2 = 1 → 1 ≤ c) → corner.move (vector r c) =
      ⟨(corner.row.toNat + r : Nat),
        (corner.col.toNat +
          (c - if r % 2 = 1 ∧ (corner.row % 2 == 1) = false then 1 else 0) : Nat)⟩ := by
    intro r c hc
    simp only [Hex.move, vector, Hex.mk.injEq, beq_eq_false_iff_ne]
    refine ⟨by omega, ?_⟩
    split <;> omega
  constructor
  · rintro ⟨v, hv, rfl⟩
    obtain ⟨r, c, hplace, rfl⟩ := mem_body_iff.1 hv
    exact ⟨_, List.mem_filterMap.2 ⟨_, hplace, if_pos rfl⟩, hmove r c (hinset _ hplace rfl)⟩
  · rintro ⟨place, hplace, rfl⟩
    obtain ⟨⟨r, c, part⟩, hmem, hsome⟩ := List.mem_filterMap.1 hplace
    obtain ⟨rfl, hoffset⟩ := Option.ite_none_right_eq_some.1 hsome
    obtain rfl := Option.some.inj hoffset
    exact ⟨_, mem_body_iff.2 ⟨r, c, hmem, rfl⟩, hmove r c (hinset _ hmem rfl)⟩

/-- The body of a food stamp lies in a small box below its corner. -/
theorem food_box {x : Hex} (hstamp : stamp ∈ foods) (hrow : 0 ≤ corner.row) (hcol : 0 ≤ corner.col)
    (hx : x ∈ stamp.bodyAt corner) :
    (corner.row ≤ x.row ∧ x.row < corner.row + 9) ∧
      corner.col ≤ x.col ∧ x.col < corner.col + 7 := by
  rw [mem_bodyAt_iff hrow hcol (inset stamp (List.mem_cons_of_mem hill hstamp))] at hx
  obtain ⟨place, hplace, rfl⟩ := hx
  have hextent := food_extent stamp hstamp _ place hplace
  simp only
  omega

/-- The silhouette of the body of a stamp is the picture of its offsets. -/
theorem ofCells_bodyAt {cells : List Hex} {rows : List (List Bool)} {width r₀ c₀ : Nat}
    (hrow : 0 ≤ corner.row) (hcol : 0 ≤ corner.col)
    (hinset : ∀ place ∈ stamp.places, place.2.2 = .body → place.1 % 2 = 1 → 1 ≤ place.2.1)
    (hcells : ∀ x, x ∈ cells ↔ x ∈ stamp.bodyAt corner) (htight : Silhouette.Tight rows width)
    (hoffsets : stamp.offsets (corner.row % 2 == 1) =
      (Silhouette.shown rows width).map fun place => (place.1 + r₀, place.2 + c₀)) :
    Silhouette.ofCells (cells.map fun h => (h.row.toNat, h.col.toNat)) =
      ⟨rows, corner.row.toNat + r₀⟩ := by
  have hmem : ∀ r c, (r, c) ∈ cells.map (fun h => (h.row.toNat, h.col.toNat)) ↔
      corner.row.toNat + r₀ ≤ r ∧ corner.col.toNat + c₀ ≤ c ∧
        Silhouette.has rows (r - (corner.row.toNat + r₀)) (c - (corner.col.toNat + c₀)) = true := by
    intro r c
    simp only [List.mem_map, hcells, mem_bodyAt_iff hrow hcol hinset, hoffsets, Prod.exists,
      htight.mem_shown_iff, Prod.mk.injEq]
    constructor
    · rintro ⟨_, ⟨_, _, ⟨r', c', hhas, rfl, rfl⟩, rfl⟩, rfl, rfl⟩
      simp only [Int.toNat_natCast]
      refine ⟨by omega, by omega, ?_⟩
      rwa [show corner.row.toNat + (r' + r₀) - (corner.row.toNat + r₀) = r' by omega,
        show corner.col.toNat + (c' + c₀) - (corner.col.toNat + c₀) = c' by omega]
    · rintro ⟨hr, hc, hhas⟩
      refine ⟨⟨r, c⟩, ⟨_, _, ⟨_, _, hhas, rfl, rfl⟩, ?_⟩, rfl, rfl⟩
      rw [Hex.mk.injEq]
      omega
  exact Silhouette.ofCells_eq htight hmem

/-- The silhouette of a hill is a legal hill. -/
theorem isLegalHill_ofCells {cells : List Hex} (hrow : 0 ≤ corner.row) (hcol : 0 ≤ corner.col)
    (hcells : ∀ x, x ∈ cells ↔ x ∈ hill.bodyAt corner) :
    (Silhouette.ofCells (cells.map fun h => (h.row.toNat, h.col.toNat))).isLegalHill = true := by
  obtain ⟨hoffsets, htight⟩ := hill_depicted (corner.row % 2 == 1)
  rw [ofCells_bodyAt hrow hcol (inset hill List.mem_cons_self) hcells htight hoffsets,
    Silhouette.isLegalHill, beq_iff_eq]
  -- The body begins on the row below the corner, which has the other parity.
  have hparity : (!corner.row % 2 == 1) = ((corner.row.toNat + 1) % 2 == 1) := by
    rw [Bool.eq_iff_iff, Bool.not_eq_true', beq_iff_eq, beq_eq_false_iff_ne]
    omega
  exact congrArg Silhouette.hillRows hparity

/-- The silhouette of a food blob is legal food. -/
theorem hasLegalFood_ofCells {cells : List Hex} (hstamp : stamp ∈ foods) (hrow : 0 ≤ corner.row)
    (hcol : 0 ≤ corner.col) (hcells : ∀ x, x ∈ cells ↔ x ∈ stamp.bodyAt corner) :
    (Silhouette.ofCells (cells.map fun h => (h.row.toNat, h.col.toNat))).hasLegalFood = true := by
  obtain ⟨rows, -, hoffsets, htight, hlegal⟩ := food_depicted stamp hstamp (corner.row % 2 == 1)
  have hsame : stamp.offsets (corner.row % 2 == 1) =
      (Silhouette.shown rows stamp.width).map fun place => (place.1 + 0, place.2 + 0) := by
    rw [hoffsets]
    exact (List.map_id _).symm
  rw [ofCells_bodyAt hrow hcol (inset stamp (List.mem_cons_of_mem hill hstamp)) hcells htight hsame,
    Nat.add_zero, ← hlegal]
  refine Silhouette.hasLegalFood_congr ?_ rows
  split
  next hodd =>
    rw [beq_iff_eq] at hodd
    omega
  next heven =>
    rw [beq_iff_eq] at heven
    omega

end Stamp

end Formicary
