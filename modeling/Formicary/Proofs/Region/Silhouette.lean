import Formicary.Region.Silhouette
import Mathlib.Data.List.GetD
import Mathlib.Data.List.Nodup
import Mathlib.Tactic.ByContra
import Mathlib.Tactic.Tauto

/-!
# What silhouettes show

A silhouette is made from a list of cells but depends on nothing except which cells are in the
list: `Silhouette.ofCells_eq` says that any picture that shows these cells, and has no blank line
or column at its edges, is the silhouette.
-/

namespace Formicary

namespace Silhouette

variable {rows : List (List Bool)} {width top left r c : Nat} {cells : List (Nat × Nat)}

/-- Whether a picture has a cell in a line and a column. -/
def has (rows : List (List Bool)) (r c : Nat) : Bool := (rows.getD r []).getD c false

theorem has_eq_true_iff :
    has rows r c = true ↔ ∃ row, rows[r]? = some row ∧ row[c]? = some true := by
  rw [has, List.getD_eq_getElem?_getD, List.getD_eq_getElem?_getD]
  cases rows[r]? with
  | none => simp
  | some row =>
    cases hc : row[c]? with
    | none => simp [hc]
    | some mark => simp [hc]

/-- All lines of a picture have one length. -/
def Rectangular (rows : List (List Bool)) (width : Nat) : Prop :=
  ∀ line ∈ rows, line.length = width

instance (rows : List (List Bool)) (width : Nat) : Decidable (Rectangular rows width) :=
  inferInstanceAs (Decidable (∀ line ∈ rows, line.length = width))

/-- A picture has cells within its lines only. -/
theorem Rectangular.lt_of_has (hrect : Rectangular rows width) (hhas : has rows r c = true) :
    r < rows.length ∧ c < width := by
  obtain ⟨row, hrow, hmark⟩ := has_eq_true_iff.1 hhas
  obtain ⟨hr, rfl⟩ := List.getElem?_eq_some_iff.1 hrow
  obtain ⟨hc, -⟩ := List.getElem?_eq_some_iff.1 hmark
  exact ⟨hr, hrect _ (List.getElem_mem hr) ▸ hc⟩

/-- The width of a picture with a cell on its first line is the length of its lines. -/
theorem Rectangular.width_eq (hrect : Rectangular rows width) (hhas : has rows 0 c = true) :
    Silhouette.width ⟨rows, top⟩ = width := by
  obtain ⟨line, rest, rfl⟩ := List.exists_cons_of_length_pos (hrect.lt_of_has hhas).1
  exact hrect line List.mem_cons_self

/-- A picture is made up of what it shows. -/
theorem Rectangular.eq_map_has (hrect : Rectangular rows width) :
    rows = (List.range rows.length).map fun r => (List.range width).map (has rows r) := by
  refine List.ext_getElem (by simp) fun r hr _ => ?_
  have hlength := hrect rows[r] (List.getElem_mem hr)
  refine List.ext_getElem (by simp [hlength]) fun c hc _ => ?_
  simp [has, hr, hc]

/-- The lines and columns in which a picture has cells, line by line. -/
def shown (rows : List (List Bool)) (width : Nat) : List (Nat × Nat) :=
  (List.range rows.length).flatMap fun r =>
    ((List.range width).filter (has rows r)).map fun c => (r, c)

theorem Rectangular.mem_shown_iff (hrect : Rectangular rows width) :
    (r, c) ∈ shown rows width ↔ has rows r c = true := by
  simp only [shown, List.mem_flatMap, List.mem_range, List.mem_map, List.mem_filter,
    Prod.mk.injEq]
  constructor
  · rintro ⟨_, -, _, ⟨-, hhas⟩, rfl, rfl⟩
    exact hhas
  · intro hhas
    obtain ⟨hr, hc⟩ := hrect.lt_of_has hhas
    exact ⟨r, hr, c, ⟨hc, hhas⟩, rfl, rfl⟩

/-- No place is listed twice. -/
theorem nodup_shown (rows : List (List Bool)) (width : Nat) : (shown rows width).Nodup := by
  refine List.nodup_flatMap.2 ⟨fun r _ => ?_, List.nodup_range.imp fun hne => ?_⟩
  · exact (List.nodup_range.filter _).map fun c c' hc => congrArg Prod.snd hc
  · rintro ⟨_, _⟩ hx hx'
    obtain ⟨_, -, hx⟩ := List.mem_map.1 hx
    obtain ⟨_, -, hx'⟩ := List.mem_map.1 hx'
    exact hne (congrArg Prod.fst (hx.trans hx'.symm))

/-- As many places are listed as the lines have cells. -/
theorem Rectangular.length_shown (hrect : Rectangular rows width) :
    (shown rows width).length = rows.flatten.count true := by
  rw [shown, List.length_flatMap]
  conv_rhs => rw [hrect.eq_map_has]
  rw [List.count_flatten, List.map_map]
  congr 1
  refine List.map_congr_left fun r _ => ?_
  rw [List.length_map, Function.comp_apply, List.count_eq_countP, List.countP_map,
    List.countP_eq_length_filter]
  congr 2
  ext c
  simp

/-- All lines of a picture have one length, and none of its edges is blank. -/
structure Tight (rows : List (List Bool)) (width : Nat) : Prop where
  /-- The lines have the same length. -/
  length_eq : ∀ line ∈ rows, line.length = width
  /-- The first line is not blank. -/
  top : ∃ c < width, has rows 0 c = true
  /-- The last line is not blank. -/
  bottom : ∃ c < width, has rows (rows.length - 1) c = true
  /-- The first column is not blank. -/
  left : ∃ r < rows.length, has rows r 0 = true
  /-- The last column is not blank. -/
  right : ∃ r < rows.length, has rows r (width - 1) = true

theorem Tight.rectangular (htight : Tight rows width) : Rectangular rows width := htight.length_eq

theorem Tight.lt_of_has (htight : Tight rows width) (hhas : has rows r c = true) :
    r < rows.length ∧ c < width := htight.rectangular.lt_of_has hhas

theorem Tight.mem_shown_iff (htight : Tight rows width) :
    (r, c) ∈ shown rows width ↔ has rows r c = true := htight.rectangular.mem_shown_iff

instance (rows : List (List Bool)) (width : Nat) : Decidable (Tight rows width) :=
  decidable_of_iff
    ((∀ line ∈ rows, line.length = width) ∧ (∃ c < width, has rows 0 c = true) ∧
      (∃ c < width, has rows (rows.length - 1) c = true) ∧
      (∃ r < rows.length, has rows r 0 = true) ∧
      ∃ r < rows.length, has rows r (width - 1) = true)
    ⟨fun ⟨hlength, htop, hbottom, hleft, hright⟩ => ⟨hlength, htop, hbottom, hleft, hright⟩,
      fun ⟨hlength, htop, hbottom, hleft, hright⟩ => ⟨hlength, htop, hbottom, hleft, hright⟩⟩

/-! ### The bounding box -/

/-- A fold of minima or maxima computes the bound of its numbers that is attained. -/
theorem foldl_eq_bound {α : Type} {l : List α} {f : α → Nat} {op : Nat → Nat → Nat}
    {inside : Nat → Prop} {a m : Nat} (hop : ∀ n k, inside n → inside k → inside (op n k))
    (hbound : ∀ n k, inside n → inside k → n = m ∨ k = m → op n k = m)
    (ha : inside a) (hl : ∀ x ∈ l, inside (f x)) (hattained : a = m ∨ ∃ x ∈ l, f x = m) :
    l.foldl (fun n x => op n (f x)) a = m := by
  induction l generalizing a with
  | nil => simpa using hattained
  | cons x l ih =>
    have hx := hl x List.mem_cons_self
    rw [List.foldl_cons]
    refine ih (hop a (f x) ha hx) (fun y hy => hl y (List.mem_cons_of_mem x hy)) ?_
    rcases hattained with rfl | ⟨y, hy, hfy⟩
    · exact Or.inl (hbound _ _ ha hx (Or.inl rfl))
    · rcases List.mem_cons.1 hy with rfl | hy
      · exact Or.inl (hbound _ _ ha hx (Or.inr hfy))
      · exact Or.inr ⟨y, hy, hfy⟩

/-- The marks that a fold sets are those of the elements. -/
theorem getD_foldl_setIfInBounds {α : Type} (l : List α) (k : α → Nat) (marks : Array Bool)
    (j : Nat) :
    (l.foldl (fun marks x => marks.setIfInBounds (k x) true) marks).getD j false = true ↔
      marks.getD j false = true ∨ j < marks.size ∧ ∃ x ∈ l, k x = j := by
  induction l generalizing marks with
  | nil => simp
  | cons x l ih =>
    have hset : (marks.setIfInBounds (k x) true).getD j false = true ↔
        marks.getD j false = true ∨ j < marks.size ∧ k x = j := by
      simp only [Array.getD_eq_getD_getElem?, Array.getElem?_setIfInBounds]
      by_cases hj : k x = j
      · by_cases hlt : k x < marks.size
        · simp [hj, hj ▸ hlt]
        · simp [hj, hj ▸ hlt]
      · simp [hj]
    rw [List.foldl_cons, ih, hset, Array.size_setIfInBounds]
    simp only [List.mem_cons, exists_eq_or_imp]
    tauto

/-- The bounding box of some cells that a tight picture shows is the picture's frame. -/
theorem box_eq {cell : Nat × Nat} (htight : Tight rows width)
    (hmem : ∀ r c, (r, c) ∈ cell :: cells ↔
      top ≤ r ∧ left ≤ c ∧ has rows (r - top) (c - left) = true) :
    cells.foldl (fun r cell => min r cell.1) cell.1 = top ∧
      cells.foldl (fun r cell => max r cell.1) cell.1 = top + (rows.length - 1) ∧
      cells.foldl (fun c cell => min c cell.2) cell.2 = left ∧
      cells.foldl (fun c cell => max c cell.2) cell.2 = left + (width - 1) := by
  have hbox : ∀ x ∈ cell :: cells, top ≤ x.1 ∧ x.1 ≤ top + (rows.length - 1) ∧
      left ≤ x.2 ∧ x.2 ≤ left + (width - 1) := by
    rintro ⟨r, c⟩ hcell
    obtain ⟨htop, hleft, hhas⟩ := (hmem r c).1 hcell
    obtain ⟨hr, hc⟩ := htight.lt_of_has hhas
    refine ⟨htop, ?_, hleft, ?_⟩
    · simp only
      omega
    · simp only
      omega
  have hshown : ∀ r c, has rows r c = true → (top + r, left + c) ∈ cell :: cells := by
    intro r c hhas
    rw [hmem, Nat.add_sub_cancel_left, Nat.add_sub_cancel_left]
    exact ⟨Nat.le_add_right .., Nat.le_add_right .., hhas⟩
  -- A bound is attained by the first cell or by another one.
  have hattained (f : Nat × Nat → Nat) (r c : Nat) (hhas : has rows r c = true) :
      f cell = f (top + r, left + c) ∨ ∃ x ∈ cells, f x = f (top + r, left + c) := by
    rcases List.mem_cons.1 (hshown r c hhas) with hfirst | hrest
    · exact Or.inl (by rw [hfirst])
    · exact Or.inr ⟨_, hrest, rfl⟩
  have hhead := hbox cell List.mem_cons_self
  have htail := fun x hx => hbox x (List.mem_cons_of_mem cell hx)
  obtain ⟨ct, -, htop⟩ := htight.top
  obtain ⟨cb, -, hbottom⟩ := htight.bottom
  obtain ⟨rl, -, hleft⟩ := htight.left
  obtain ⟨rr, -, hright⟩ := htight.right
  refine ⟨?_, ?_, ?_, ?_⟩
  · exact foldl_eq_bound (fun n k (hn : top ≤ n) (hk : top ≤ k) => by omega)
      (fun n k hn hk h => by omega) hhead.1 (fun x hx => (htail x hx).1)
      (hattained Prod.fst 0 ct htop)
  · exact foldl_eq_bound
      (fun n k (hn : n ≤ top + (rows.length - 1)) (hk : k ≤ top + (rows.length - 1)) => by omega)
      (fun n k hn hk h => by omega) hhead.2.1 (fun x hx => (htail x hx).2.1)
      (hattained Prod.fst _ cb hbottom)
  · exact foldl_eq_bound (fun n k (hn : left ≤ n) (hk : left ≤ k) => by omega)
      (fun n k hn hk h => by omega) hhead.2.2.1 (fun x hx => (htail x hx).2.2.1)
      (hattained Prod.snd rl 0 hleft)
  · exact foldl_eq_bound
      (fun n k (hn : n ≤ left + (width - 1)) (hk : k ≤ left + (width - 1)) => by omega)
      (fun n k hn hk h => by omega) hhead.2.2.2 (fun x hx => (htail x hx).2.2.2)
      (hattained Prod.snd rr _ hright)

/-- Places in the lines of a picture are told apart by their numbers. -/
theorem place_eq_of_number_eq {r' c' : Nat} (hc : c < width) (hc' : c' < width)
    (h : r * width + c = r' * width + c') : r = r' ∧ c = c' := by
  have hpos : 0 < width := Nat.lt_of_le_of_lt (Nat.zero_le c) hc
  have hdiv := congrArg (· / width) h
  have hmod := congrArg (· % width) h
  simp only [Nat.mul_comm _ width, Nat.mul_add_div hpos, Nat.mul_add_mod, Nat.div_eq_of_lt hc,
    Nat.div_eq_of_lt hc', Nat.mod_eq_of_lt hc, Nat.mod_eq_of_lt hc', Nat.add_zero] at hdiv hmod
  exact ⟨hdiv, hmod⟩

/-- A tight picture of some cells is their silhouette. -/
theorem ofCells_eq (htight : Tight rows width)
    (hmem : ∀ r c, (r, c) ∈ cells ↔
      top ≤ r ∧ left ≤ c ∧ has rows (r - top) (c - left) = true) :
    ofCells cells = ⟨rows, top⟩ := by
  obtain ⟨c₀, hc₀, hhas₀⟩ := htight.top
  have hheight := (htight.lt_of_has hhas₀).1
  cases cells with
  | nil =>
    -- A tight picture shows some cell.
    have hshown := (hmem (top + 0) (left + c₀)).2 (by simpa using hhas₀)
    simp at hshown
  | cons cell cells =>
    obtain ⟨htop, hbottom, hleft, hright⟩ := box_eq htight hmem
    have hwidth : left + (width - 1) - left + 1 = width := by omega
    have hlines : top + (rows.length - 1) - top + 1 = rows.length := by omega
    obtain ⟨row, col⟩ := cell
    simp only [ofCells, htop, hbottom, hleft, hright, hwidth, hlines]
    conv_rhs => rw [htight.rectangular.eq_map_has]
    congr 1
    refine List.map_congr_left fun r hr => List.map_congr_left fun c hc => ?_
    rw [List.mem_range] at hr hc
    rw [Bool.eq_iff_iff, getD_foldl_setIfInBounds]
    have hlt : r * width + c < rows.length * width := by
      have hle : (r + 1) * width ≤ rows.length * width := Nat.mul_le_mul_right _ hr
      rw [Nat.succ_mul] at hle
      omega
    have hblank :
        (Array.replicate (rows.length * width) false).getD (r * width + c) false = false := by
      simp [Array.getD]
    rw [hblank, Array.size_replicate]
    simp only [Bool.false_eq_true, false_or, hlt, true_and]
    -- A place is marked if a cell of the list has its number, and no other place has this number.
    constructor
    · rintro ⟨⟨r', c'⟩, hcell, hnumber⟩
      obtain ⟨htop', hleft', hhas⟩ := (hmem r' c').1 hcell
      obtain ⟨rfl, rfl⟩ := place_eq_of_number_eq (htight.lt_of_has hhas).2 hc hnumber
      exact hhas
    · intro hhas
      refine ⟨(top + r, left + c), (hmem _ _).2 ?_, ?_⟩
      · rw [Nat.add_sub_cancel_left, Nat.add_sub_cancel_left]
        exact ⟨Nat.le_add_right .., Nat.le_add_right .., hhas⟩
      · simp only [Nat.add_sub_cancel_left]

/-! ### Food and the parity of rows -/

/-- Move a silhouette down by a number of rows. -/
def lower (n : Nat) (s : Silhouette) : Silhouette := ⟨s.rows, n + s.top⟩

/-- Cutting out a stencil does not depend on how far down the silhouette lies. -/
theorem overlay_lower (rows : List (List Bool)) (top : Nat) (stencil : Stencil) :
    overlay ⟨rows, top⟩ stencil = (overlay ⟨rows, 0⟩ stencil).map (lower top) := by
  have hcrop (rows : List (List Bool)) : crop ⟨rows, top⟩ = lower top (crop ⟨rows, 0⟩) := by
    simp only [crop, lower, Nat.zero_add]
  rw [overlay, overlay]
  -- Where one of the searches fails, it fails on both sides.
  cases stencil.head? with
  | none => rfl
  | some mask =>
    cases hline : rows.head? with
    | none => rfl
    | some line =>
      simp only [Option.bind_eq_bind, Option.bind_some]
      cases line.findIdx? id with
      | none => rfl
      | some col =>
        cases mask.findIdx? id with
        | none => rfl
        | some maskCol =>
          simp only [Option.bind_some]
          rw [apply_ite (Option.map (lower top))]
          refine if_congr Iff.rfl rfl ?_
          cases cutRows (col - maskCol) rows stencil with
          | none => rfl
          | some rest => exact congrArg some (hcrop rest)

/-- Which blob is cut out depends on the row of the first line by its parity only. -/
theorem cutBlob_eq (rows : List (List Bool)) (top : Nat) :
    cutBlob ⟨rows, top⟩ =
      ((foodStencils (top % 2 == 1)).findSome? (overlay ⟨rows, 0⟩)).map (lower top) := by
  rw [cutBlob, List.map_findSome?]
  congr 1
  funext stencil
  exact overlay_lower rows top stencil

/-- Whether blobs can be cut out until nothing is left depends on the row of the first line by its
parity only. -/
theorem consume_congr {top top' : Nat} (h : top % 2 = top' % 2) (rounds : Nat)
    (rows : List (List Bool)) : consume rounds ⟨rows, top⟩ = consume rounds ⟨rows, top'⟩ := by
  induction rounds generalizing rows top top' with
  | zero => rfl
  | succ rounds ih =>
    rw [consume, consume, cutBlob_eq, cutBlob_eq, h]
    cases (foodStencils (top' % 2 == 1)).findSome? (overlay ⟨rows, 0⟩) with
    | none => rfl
    | some rest =>
      simp only [Option.map_some, lower]
      rw [ih (show (top + rest.top) % 2 = (top' + rest.top) % 2 by omega)]

/-- Whether food is legal depends on the row of the first line by its parity only. -/
theorem hasLegalFood_congr {top top' : Nat} (h : top % 2 = top' % 2) (rows : List (List Bool)) :
    hasLegalFood ⟨rows, top⟩ = hasLegalFood ⟨rows, top'⟩ := by
  rw [hasLegalFood, hasLegalFood, cellCount, cellCount, consume_congr h]

end Silhouette

end Formicary
