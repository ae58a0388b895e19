import Formicary.Proofs.Lattice
import Mathlib.Data.List.Pairwise
import Mathlib.Data.Set.Basic
import Mathlib.Logic.Relation

/-!
# Connected sets of cells

Two cells of the lattice are adjacent if one step leads from one to the other. A set of cells
falls into regions, the classes of cells that are joined by steps inside the set
(`Hex.IsRegion`). A set that is put together from connected parts that keep apart from each other
has exactly these parts as its regions (`Hex.isRegion_iff_of_parts`).
-/

namespace Formicary

namespace Hex

/-- Two cells are next to each other. -/
def Adjacent (a b : Hex) : Prop := ∃ d : Direction, d.step a = b

/-- A cell is reached from another one by steps that all lead into a set. -/
def Joined (S : Set Hex) : Hex → Hex → Prop :=
  Relation.ReflTransGen fun a b => a.Adjacent b ∧ b ∈ S

/-- A set is not empty, and all its cells are joined inside it. -/
def Connected (S : Set Hex) : Prop := S.Nonempty ∧ ∀ a ∈ S, ∀ b ∈ S, Joined S a b

/-- No cell of one set is a cell of the other or next to one. -/
def Apart (S T : Set Hex) : Prop := ∀ a ∈ S, ∀ b ∈ T, a ≠ b ∧ ¬a.Adjacent b

/-- A set consists of all cells of another one that are joined to some cell of it. -/
def IsRegion (S R : Set Hex) : Prop := ∃ a ∈ S, R = {b | Joined S a b}

variable {S T R R' : Set Hex} {a b c : Hex}

theorem Adjacent.symm (h : a.Adjacent b) : b.Adjacent a := by
  obtain ⟨d, rfl⟩ := h
  exact ⟨d.opposite, Direction.opposite_step d a⟩

theorem adjacent_step (d : Direction) (a : Hex) : a.Adjacent (d.step a) := ⟨d, rfl⟩

/-- A step goes on by one column at most. -/
theorem Adjacent.row_le {a b : Hex} (h : a.Adjacent b) : b.row ≤ a.row + 1 := by
  obtain ⟨d, rfl⟩ := h
  cases d <;> simp only [Direction.step, Direction.offset] <;> omega

theorem Adjacent.col_le {a b : Hex} (h : a.Adjacent b) : b.col ≤ a.col + 1 := by
  obtain ⟨d, rfl⟩ := h
  have hrow := Int.emod_two_eq a.row
  cases d <;> simp only [Direction.step, Direction.offset] <;> omega

theorem Apart.symm (h : Apart S T) : Apart T S := by
  intro b hb a ha
  obtain ⟨hne, hadjacent⟩ := h a ha b hb
  exact ⟨hne.symm, fun hback => hadjacent hback.symm⟩

instance : Std.Symm Apart := ⟨fun _ _ h => h.symm⟩

/-! ### Joined cells -/

theorem Joined.trans (h : Joined S a b) (h' : Joined S b c) : Joined S a c :=
  Relation.ReflTransGen.trans h h'

theorem Joined.of_adjacent (h : a.Adjacent b) (hb : b ∈ S) : Joined S a b :=
  Relation.ReflTransGen.single ⟨h, hb⟩

/-- Steps into a set lead into every larger set. -/
theorem Joined.mono (hsub : S ⊆ T) (h : Joined S a b) : Joined T a b := by
  induction h with
  | refl => exact .refl
  | tail _ hstep ih => exact ih.trans (.of_adjacent hstep.1 (hsub hstep.2))

/-- Who starts in a set stays in it. -/
theorem Joined.mem (h : Joined S a b) (ha : a ∈ S) : b ∈ S := by
  cases h with
  | refl => exact ha
  | tail _ hstep => exact hstep.2

/-- The way back stays in the set, too. -/
theorem Joined.symm (h : Joined S a b) (ha : a ∈ S) : Joined S b a := by
  induction h with
  | refl => exact .refl
  | tail hprev hstep ih => exact Joined.trans (.of_adjacent hstep.1.symm (Joined.mem hprev ha)) ih

/-- What is closed under steps into a set holds all that is joined to one of its cells. -/
theorem Joined.mem_of_closed (h : Joined S a b) (ha : a ∈ T)
    (hclosed : ∀ x ∈ T, ∀ y ∈ S, x.Adjacent y → y ∈ T) : b ∈ T := by
  induction h with
  | refl => exact ha
  | tail _ hstep ih => exact hclosed _ ih _ hstep.2 hstep.1

/-! ### Connected sets -/

/-- A set is connected if all its cells are joined to one of them. -/
theorem connected_of_joined (ha : a ∈ S) (h : ∀ b ∈ S, Joined S a b) : Connected S :=
  ⟨⟨a, ha⟩, fun b hb c hc => ((h b hb).symm ha).trans (h c hc)⟩

/-- Two connected sets that meet or touch make one connected set. -/
theorem Connected.union (hS : Connected S) (hT : Connected T) (ha : a ∈ S) (hb : b ∈ T)
    (hmeet : a = b ∨ a.Adjacent b) : Connected (S ∪ T) := by
  have hbridge : Joined (S ∪ T) a b := by
    rcases hmeet with rfl | hadjacent
    · exact .refl
    · exact .of_adjacent hadjacent (Or.inr hb)
  refine connected_of_joined (Or.inl ha) ?_
  rintro c (hc | hc)
  · exact (hS.2 a ha c hc).mono Set.subset_union_left
  · exact hbridge.trans ((hT.2 b hb c hc).mono Set.subset_union_right)

/-! ### Regions -/

theorem IsRegion.subset (h : IsRegion S R) : R ⊆ S := by
  obtain ⟨a, ha, rfl⟩ := h
  exact fun b hb => Joined.mem hb ha

theorem IsRegion.nonempty (h : IsRegion S R) : R.Nonempty := by
  obtain ⟨a, -, rfl⟩ := h
  exact ⟨a, .refl⟩

/-- A region is the region of each of its cells. -/
theorem IsRegion.eq_of_mem (h : IsRegion S R) (hb : b ∈ R) : R = {c | Joined S b c} := by
  obtain ⟨a, ha, rfl⟩ := h
  ext c
  exact ⟨fun hc => (Joined.symm hb ha).trans hc, fun hc => Joined.trans hb hc⟩

/-- Regions that have a cell in common are the same. -/
theorem IsRegion.eq_of_common (h : IsRegion S R) (h' : IsRegion S R') (hb : b ∈ R)
    (hb' : b ∈ R') : R = R' :=
  (h.eq_of_mem hb).trans (h'.eq_of_mem hb').symm

/-- A connected set that meets a region lies in it. -/
theorem IsRegion.subset_of_connected (h : IsRegion S R) (hT : Connected T) (hsub : T ⊆ S)
    (hb : b ∈ R) (hb' : b ∈ T) : T ⊆ R := by
  rw [h.eq_of_mem hb]
  exact fun c hc => (hT.2 b hb' c hc).mono hsub

/-- The regions of a set that is put together from connected parts that keep apart from each
other are these parts. -/
theorem isRegion_iff_of_parts {parts : List (Set Hex)}
    (hunion : ∀ a, a ∈ S ↔ ∃ P ∈ parts, a ∈ P) (hconnected : ∀ P ∈ parts, Connected P)
    (hapart : parts.Pairwise Apart) : IsRegion S R ↔ R ∈ parts := by
  -- No step leads out of a part.
  have hclosed : ∀ P ∈ parts, ∀ x ∈ P, ∀ y ∈ S, x.Adjacent y → y ∈ P := by
    intro P hP x hx y hy hadjacent
    obtain ⟨Q, hQ, hyQ⟩ := (hunion y).1 hy
    by_contra hyP
    have hne : P ≠ Q := by
      rintro rfl
      exact hyP hyQ
    have hfar := hapart.forall hP hQ hne
    exact (hfar x hx y hyQ).2 hadjacent
  have hpart : ∀ P ∈ parts, ∀ a ∈ P, {b | Joined S a b} = P := by
    intro P hP a ha
    have hsub : P ⊆ S := fun x hx => (hunion x).2 ⟨P, hP, hx⟩
    ext b
    exact ⟨fun hb => hb.mem_of_closed ha (hclosed P hP),
      fun hb => ((hconnected P hP).2 a ha b hb).mono hsub⟩
  constructor
  · rintro ⟨a, ha, rfl⟩
    obtain ⟨P, hP, haP⟩ := (hunion a).1 ha
    rw [hpart P hP a haP]
    exact hP
  · intro hR
    obtain ⟨a, ha⟩ := (hconnected R hR).1
    exact ⟨a, (hunion a).2 ⟨R, hR, ha⟩, (hpart R hR a ha).symm⟩

/-- No step leads from a set into another one that keeps apart from it. -/
theorem Joined.of_union (h : Joined (S ∪ T) a b) (hapart : Apart S T) (ha : a ∈ S) :
    Joined S a b := by
  induction h with
  | refl => exact .refl
  | @tail b c _ hstep ih =>
    rcases hstep.2 with hc | hc
    · exact ih.trans (.of_adjacent hstep.1 hc)
    · exact absurd hstep.1 (hapart b (Joined.mem ih ha) c hc).2

/-- A connected set that is added to another one and keeps apart from it is one more region. -/
theorem isRegion_union_iff (hT : Connected T) (hapart : Apart S T) :
    IsRegion (S ∪ T) R ↔ R = T ∨ IsRegion S R := by
  have hold : ∀ a ∈ S, {b | Joined (S ∪ T) a b} = {b | Joined S a b} := fun a ha =>
    Set.ext fun b => ⟨fun h => h.of_union hapart ha, fun h => h.mono Set.subset_union_left⟩
  have hnew : ∀ a ∈ T, {b | Joined (S ∪ T) a b} = T := by
    intro a ha
    ext b
    refine ⟨fun h => ?_, fun hb => (hT.2 a ha b hb).mono Set.subset_union_right⟩
    rw [Set.mem_ofPred_eq, Set.union_comm] at h
    exact Joined.mem (h.of_union hapart.symm ha) ha
  constructor
  · rintro ⟨a, ha | ha, rfl⟩
    · exact .inr ⟨a, ha, hold a ha⟩
    · exact .inl (hnew a ha)
  · rintro (rfl | ⟨a, ha, rfl⟩)
    · obtain ⟨a, ha⟩ := hT.1
      exact ⟨a, .inr ha, (hnew a ha).symm⟩
    · exact ⟨a, .inl ha, (hold a ha).symm⟩

/-! ### Paths -/

theorem adjacent_east (row col : Int) : Adjacent ⟨row, col⟩ ⟨row, col + 1⟩ :=
  ⟨.east, by simp [Direction.step, Direction.offset]⟩

/-- The cell below is a neighbour: to the right of an even row and to the left of an odd one. -/
theorem adjacent_south (row col : Int) : Adjacent ⟨row, col⟩ ⟨row + 1, col⟩ := by
  rcases Int.emod_two_eq row with heven | hodd
  · exact ⟨.southEast, by simp [Direction.step, Direction.offset, heven]⟩
  · exact ⟨.southWest, by simp [Direction.step, Direction.offset, hodd]⟩

/-- A path inside a set joins its ends. -/
theorem Joined.of_path {S : Set Hex} {n : Nat} (path : Nat → Hex)
    (hpath : ∀ i < n, (path i).Adjacent (path (i + 1))) (hmem : ∀ i < n, path (i + 1) ∈ S) :
    Joined S (path 0) (path n) := by
  induction n with
  | zero => exact .refl
  | succ n ih =>
    have hprev := ih (fun i hi => hpath i (by omega)) fun i hi => hmem i (by omega)
    exact hprev.trans (.of_adjacent (hpath n (by omega)) (hmem n (by omega)))

end Hex

namespace Frame

/-! ### The edge of a frame -/

/-- The cells of the first and last row and column. -/
def edge (frame : Frame) : Set Hex :=
  {h | frame.Contains h ∧
    (h.row = 0 ∨ h.row = frame.height - 1 ∨ h.col = 0 ∨ h.col = frame.width - 1)}

/-- The edge of a frame is connected. -/
theorem connected_edge {frame : Frame} (hwidth : 0 < frame.width)
    (hheight : 0 < frame.height) : Hex.Connected frame.edge := by
  have hmem : ∀ {row col : Nat}, row < frame.height → col < frame.width →
      (row = 0 ∨ row = frame.height - 1 ∨ col = 0 ∨ col = frame.width - 1) →
      (⟨row, col⟩ : Hex) ∈ frame.edge := by
    intro row col hrow hcol hedge
    refine ⟨⟨by simp, by simpa, by simp, by simpa⟩, ?_⟩
    simp only
    omega
  -- Along the first and the last row, and down the first and the last column.
  have heast : ∀ {row col : Nat}, row < frame.height → col < frame.width →
      (row = 0 ∨ row = frame.height - 1) → Hex.Joined frame.edge ⟨row, 0⟩ ⟨row, col⟩ := by
    intro row col hrow hcol hedge
    exact Hex.Joined.of_path (fun i => ⟨row, (i : Nat)⟩)
      (fun i _ => Hex.adjacent_east row i) fun i hi => hmem hrow (by omega) (by omega)
  have hsouth : ∀ {row col : Nat}, row < frame.height → col < frame.width →
      (col = 0 ∨ col = frame.width - 1) → Hex.Joined frame.edge ⟨0, col⟩ ⟨row, col⟩ := by
    intro row col hrow hcol hedge
    exact Hex.Joined.of_path (fun i => ⟨(i : Nat), col⟩)
      (fun i _ => Hex.adjacent_south i col) fun i hi => hmem (by omega) hcol (by omega)
  refine Hex.connected_of_joined (hmem hheight hwidth (Or.inl rfl)) ?_
  rintro ⟨row, col⟩ ⟨⟨hrow₀, hrow, hcol₀, hcol⟩, hedge⟩
  obtain ⟨r, rfl⟩ := Int.eq_ofNat_of_zero_le hrow₀
  obtain ⟨c, rfl⟩ := Int.eq_ofNat_of_zero_le hcol₀
  simp only [Int.ofNat_lt] at hrow hcol hedge
  by_cases hside : c = 0 ∨ c = frame.width - 1
  · exact (heast hheight hcol (Or.inl rfl)).trans (hsouth hrow hcol hside)
  · exact (hsouth hrow hwidth (Or.inl rfl)).trans (heast hrow hcol (by omega))

end Frame

end Formicary
