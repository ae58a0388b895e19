import Formicary.Proofs.Lattice
import Formicary.Proofs.Region.Depiction
import Mathlib.Data.Int.Interval
import Mathlib.Data.Set.Card

/-!
# Hexagons

The cells that can be reached from a centre in a limited number of steps make up a hexagon
(`Hex.ball`). In slanted coordinates it is cut out by three bounds (`Hex.mem_ball_iff`), one for
each pair of opposite directions, so a hexagon of radius six has 127 cells (`Hex.ncard_ball_six`).

The formula for the lines of a legal hill knows nothing of steps. It recognises the pictures of
hexagons of radius six and no others, on rows of both parities
(`Silhouette.Depicts.isLegalHill_iff`).
-/

namespace Formicary

namespace Hex

/-- The cell that is reached from a cell by steps in the given directions, one after the other. -/
def walk (h : Hex) (ds : List Direction) : Hex := ds.foldl (fun h d => d.step h) h

/-- The cells that can be reached from a centre in at most `radius` steps. -/
def ball (centre : Hex) (radius : Nat) : Set Hex :=
  {h | ∃ ds : List Direction, ds.length ≤ radius ∧ centre.walk ds = h}

/-- A vector leads no farther than `n` steps away: no pair of opposite directions is needed more
often than that. -/
def Short (n : Nat) (v : Int × Int) : Prop :=
  v.1.natAbs ≤ n ∧ v.2.natAbs ≤ n ∧ (v.1 + v.2).natAbs ≤ n

instance (n : Nat) (v : Int × Int) : Decidable (Short n v) :=
  inferInstanceAs (Decidable (_ ∧ _))

variable {centre h : Hex} {n : Nat} {v : Int × Int} {d : Direction}

/-- One step more makes a vector longer by one at most. -/
theorem Short.add_vector (hv : Short n v) (d : Direction) : Short (n + 1) (d.vector + v) := by
  unfold Short at hv ⊢
  cases d <;> simp only [Direction.vector, Prod.fst_add, Prod.snd_add] <;> omega

/-- A vector that needs more than `n` steps has a direction in which the first of them can be
made. -/
theorem Short.exists_vector (hv : Short (n + 1) v) :
    Short n v ∨ ∃ d : Direction, ∃ w, Short n w ∧ d.vector + w = v := by
  obtain ⟨q, r⟩ := v
  have hback : ∀ d : Direction, Short n ((q, r) - d.vector) →
      Short n (q, r) ∨ ∃ d : Direction, ∃ w, Short n w ∧ d.vector + w = (q, r) :=
    fun d hd => .inr ⟨d, _, hd, add_sub_cancel _ _⟩
  unfold Short at hv hback ⊢
  simp only [Prod.fst_sub, Prod.snd_sub] at hv hback
  -- The signs of the coordinates tell in which sector the vector lies.
  rcases lt_trichotomy q 0 with hq | rfl | hq
  · by_cases hr : 0 < r
    · exact hback .southWest (by simp only [Direction.vector]; omega)
    · exact hback .west (by simp only [Direction.vector]; omega)
  · rcases lt_trichotomy r 0 with hr | rfl | hr
    · exact hback .northWest (by simp only [Direction.vector]; omega)
    · exact .inl (by simp)
    · exact hback .southEast (by simp only [Direction.vector]; omega)
  · by_cases hr : r < 0
    · exact hback .northEast (by simp only [Direction.vector]; omega)
    · exact hback .east (by simp only [Direction.vector]; omega)

/-- A walk adds up to a vector that is no longer than the walk. -/
theorem short_of_walk (ds : List Direction) (centre : Hex) :
    ∃ v, Short ds.length v ∧ (centre.walk ds).slant = centre.slant + v := by
  induction ds generalizing centre with
  | nil => exact ⟨0, by decide, (add_zero _).symm⟩
  | cons d ds ih =>
    obtain ⟨v, hv, hwalk⟩ := ih (d.step centre)
    refine ⟨d.vector + v, hv.add_vector d, ?_⟩
    rw [← add_assoc, ← Direction.slant_step]
    exact hwalk

/-- A cell that is away by a short vector can be reached. -/
theorem exists_walk (hv : Short n v) : ∀ centre h : Hex, h.slant = centre.slant + v →
    ∃ ds : List Direction, ds.length ≤ n ∧ centre.walk ds = h := by
  induction n generalizing v with
  | zero =>
    intro centre h hslant
    obtain rfl : v = 0 := by
      unfold Short at hv
      refine Prod.ext ?_ ?_
      · show v.1 = 0
        omega
      · show v.2 = 0
        omega
    exact ⟨[], Nat.le_refl _, slant_injective (hslant.trans (add_zero _)).symm⟩
  | succ n ih =>
    intro centre h hslant
    -- A vector of full length begins with a step, and what is left of it is shorter.
    rcases hv.exists_vector with hshort | ⟨d, w, hw, rfl⟩
    · obtain ⟨ds, hlength, hwalk⟩ := ih hshort centre h hslant
      exact ⟨ds, Nat.le_succ_of_le hlength, hwalk⟩
    · have hstep : h.slant = (d.step centre).slant + w := by
        rw [hslant, Direction.slant_step, add_assoc]
      obtain ⟨ds, hlength, hwalk⟩ := ih hw (d.step centre) h hstep
      exact ⟨d :: ds, Nat.succ_le_succ hlength, hwalk⟩

/-- The cells of a hexagon are those that are away from its centre by a short vector. -/
theorem mem_ball_iff : h ∈ ball centre n ↔ Short n (h.slant - centre.slant) := by
  constructor
  · rintro ⟨ds, hlength, rfl⟩
    obtain ⟨v, hv, hwalk⟩ := short_of_walk ds centre
    rw [hwalk, add_sub_cancel_left]
    unfold Short at hv ⊢
    omega
  · intro hshort
    exact exists_walk hshort centre h (add_sub_cancel _ _).symm

theorem move_mem_ball_iff : centre.move v ∈ ball centre n ↔ Short n v := by
  rw [mem_ball_iff, slant_move, add_sub_cancel_left]

/-- A hexagon of radius six has 127 cells. -/
theorem ncard_ball_six (centre : Hex) : (ball centre 6).ncard = 127 := by
  let box : Finset (Int × Int) := Finset.Icc (-6) 6 ×ˢ Finset.Icc (-6) 6
  have hcard : (box.filter (Short 6)).card = 127 := by decide +kernel
  have hball : ball centre 6 = centre.move '' (box.filter (Short 6)) := by
    ext h
    constructor
    · intro hh
      have hshort := mem_ball_iff.1 hh
      refine ⟨h.slant - centre.slant, ?_, slant_injective ?_⟩
      · rw [Finset.mem_coe, Finset.mem_filter]
        refine ⟨?_, hshort⟩
        unfold Short at hshort
        rw [Finset.mem_product, Finset.mem_Icc, Finset.mem_Icc]
        omega
      · rw [slant_move, add_sub_cancel]
    · rintro ⟨v, hv, rfl⟩
      exact move_mem_ball_iff.2 (Finset.mem_filter.1 hv).2
  rw [hball, Set.ncard_image_of_injective _ (move_injective centre), Set.ncard_coe_finset, hcard]

end Hex

namespace Silhouette

variable {s : Silhouette} {S : Set Hex}

/-- The picture of a legal hill shows a hexagon whose centre is its seventh cell on its seventh
line. -/
theorem mem_ball_iff_has (top left : Nat) (x : Hex) :
    x ∈ Hex.ball ⟨top + 6, left + 6⟩ 6 ↔
      ∃ r c : Nat, has (hillRows (top % 2 == 1)) r c = true ∧ (⟨top + r, left + c⟩ : Hex) = x := by
  have hhas : ∀ r c : Nat, has (hillRows (top % 2 == 1)) r c = true ↔
      (⟨top + r, left + c⟩ : Hex) ∈ Hex.ball ⟨top + 6, left + 6⟩ 6 := by
    intro r c
    rw [Hex.mem_ball_iff, hillRows, has_map_range]
    simp only [Hex.Short, Hex.slant, Prod.fst_sub, Prod.snd_sub, hillSize, Bool.and_eq_true,
      decide_eq_true_eq, beq_iff_eq]
    split <;> omega
  constructor
  · intro hx
    have hshort := Hex.mem_ball_iff.1 hx
    obtain ⟨row, col⟩ := x
    simp only [Hex.Short, Hex.slant, Prod.fst_sub, Prod.snd_sub] at hshort
    -- The hexagon reaches six rows up from its centre and six columns to the left of it.
    obtain ⟨r, hr⟩ : ∃ r : Nat, row = top + r := ⟨(row - top).toNat, by omega⟩
    obtain ⟨c, hc⟩ : ∃ c : Nat, col = left + c := ⟨(col - left).toNat, by omega⟩
    subst hr hc
    exact ⟨r, c, (hhas r c).2 hx, rfl⟩
  · rintro ⟨r, c, hcell, rfl⟩
    exact (hhas r c).1 hcell

/-- The lines of a legal hill make a tight picture. -/
theorem tight_hillRows : ∀ oddTop : Bool, Tight (hillRows oddTop) hillSize := by
  decide +kernel

/-- The lines of a legal hill are the picture of a hexagon. -/
theorem depicts_ball (top left : Nat) :
    Depicts ⟨hillRows (top % 2 == 1), top⟩ (Hex.ball ⟨top + 6, left + 6⟩ 6) :=
  (tight_hillRows _).depicts (mem_ball_iff_has top left)

/-- A hexagon whose cells have natural numbers for rows and columns has its centre six rows and
columns away from zero at least. -/
theorem exists_centre {centre : Hex} (h : s.Depicts (Hex.ball centre 6)) :
    ∃ top left : Nat, centre = ⟨top + 6, left + 6⟩ := by
  obtain ⟨left, hmem⟩ := h.exists_mem_iff
  have hnatural : ∀ v, Hex.Short 6 v → 0 ≤ (centre.move v).row ∧ 0 ≤ (centre.move v).col := by
    intro v hv
    obtain ⟨r, c, -, hx⟩ := (hmem _).1 (Hex.move_mem_ball_iff.2 hv)
    rw [← hx]
    exact ⟨by simp only; omega, by simp only; omega⟩
  -- The cells six steps up and six steps to the left.
  have hup := (hnatural (0, -6) (by decide)).1
  have hleft := (hnatural (-6, 0) (by decide)).2
  obtain ⟨row, col⟩ := centre
  simp only [Hex.move, add_zero, sub_self] at hup hleft
  refine ⟨(row - 6).toNat, (col - 6).toNat, ?_⟩
  rw [Hex.mk.injEq]
  omega

/-- A picture is recognised as a legal hill if it shows a hexagon of radius six. -/
theorem Depicts.isLegalHill_iff (h : s.Depicts S) :
    s.isLegalHill = true ↔ ∃ centre, S = Hex.ball centre 6 := by
  rw [isLegalHill, beq_iff_eq]
  constructor
  · intro hrows
    obtain ⟨left, hmem⟩ := h.exists_mem_iff
    refine ⟨⟨s.top + 6, left + 6⟩, ?_⟩
    ext x
    rw [hmem, mem_ball_iff_has, ← hrows]
  · rintro ⟨centre, rfl⟩
    obtain ⟨top, left, rfl⟩ := exists_centre h
    rw [h.unique (depicts_ball top left)]

end Silhouette

end Formicary
