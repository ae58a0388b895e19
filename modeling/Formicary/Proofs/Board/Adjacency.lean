import Formicary.Proofs.Board.Links
import Formicary.Proofs.Game.Strict
import Mathlib.Data.Set.Function
import Mathlib.Order.Interval.Set.Defs

/-!
# The links of a board are the clipped lattice

Laying out a board cuts a rectangle out of the lattice: a link leads to the neighbour on the
lattice, if that lies in the frame, and is missing otherwise. `Board.ClippedLattice` says so with
its consequences, from the numbering of the cells to the six neighbours of every cell inside.

Links are worked out in words: the number of a cell is divided with a remainder in unsigned words,
a step is made in signed words of twice the length, the result is tested and cut down again, and a
word that is no number stands for a missing neighbour. `Board.LinkedInWords` says that nothing of
this goes wrong.

## Main results

* `Board.Wired.clippedLattice`: the links of a wired board are the clipped lattice.
* `Frame.toNat_wordIndex?`, `Frame.toNat_wordHex`, `Frame.ofWord_wordLink`: on a board of fewer
  cells than words, the words stand for numbers, places and links.
* `Board.links_ofMap`: both together for the board of any world of fewer cells than words.
-/

namespace Formicary

/-! ### Steps in signed words -/

/-- The lowest bit of a signed word is its parity. -/
theorem toInt_and_one (x : Int64) : (x &&& 1).toInt = x.toInt % 2 := by
  have hand : (x &&& 1).toInt = ((x.toBitVec.toNat % 2 : Nat) : Int) := by
    rw [← Int64.toInt_toBitVec, Int64.toBitVec_and, BitVec.toInt_and]
    change ((x.toBitVec.toNat &&& 1 : Nat) : Int).bmod (2 ^ 64) = _
    rw [Nat.and_one_is_mod]
    exact Int.bmod_eq_of_le (by omega) (by omega)
  -- A negative word is its unsigned value less an even number.
  have hword : x.toInt = (x.toBitVec.toNat : Int).bmod (2 ^ 64) := by
    rw [← Int64.toInt_toBitVec, BitVec.toInt_eq_toNat_bmod]
  rw [hand, hword, Int.bmod_def]
  split <;> omega

/-- A sum of signed words is the sum of their values while it stays in range. -/
theorem toInt_add_of_lt {x y : Int64} (hlow : -2 ^ 63 ≤ x.toInt + y.toInt)
    (hhigh : x.toInt + y.toInt < 2 ^ 63) : (x + y).toInt = x.toInt + y.toInt := by
  rw [Int64.toInt_add]
  exact Int.bmod_eq_of_le (by omega) (by omega)

namespace Direction

/-- The change of row and column made by one step, in signed words. The lowest bit of the row is
its parity. -/
def wordOffset (d : Direction) (row : Int64) : Int64 × Int64 :=
  let odd := row &&& 1
  match d with
  | east => (0, 1)
  | southEast => (1, odd)
  | southWest => (1, odd - 1)
  | west => (0, -1)
  | northWest => (-1, odd - 1)
  | northEast => (-1, odd)

/-- The row and column of a neighbour, in signed words. -/
def wordStep (d : Direction) (row col : Int64) : Int64 × Int64 :=
  let (rows, cols) := d.wordOffset row
  (row + rows, col + cols)

/-- The offset in signed words is the offset. -/
theorem toInt_wordOffset (d : Direction) (row : Int64) :
    ((d.wordOffset row).1.toInt, (d.wordOffset row).2.toInt) = d.offset row.toInt := by
  have hparity := toInt_and_one row
  have hless : ((row &&& 1) - 1).toInt = row.toInt % 2 - 1 := by
    rw [Int64.toInt_sub, hparity, Int64.toInt_one]
    exact Int.bmod_eq_of_le (by omega) (by omega)
  cases d <;> simp only [wordOffset, offset, hparity, hless] <;> rfl

/-- An offset is by one row and one column at most. -/
theorem offset_mem (d : Direction) (row : Int) :
    -1 ≤ (d.offset row).1 ∧ (d.offset row).1 ≤ 1 ∧
      -1 ≤ (d.offset row).2 ∧ (d.offset row).2 ≤ 1 := by
  cases d <;> simp only [offset] <;> omega

/-- From a row and column that are unsigned words of half the length, a step in signed words is the
step on the lattice. -/
theorem toInt_wordStep (d : Direction) (row col : UInt32) :
    let stepped := d.wordStep (Int64.ofNat row.toNat) (Int64.ofNat col.toNat)
    (⟨stepped.1.toInt, stepped.2.toInt⟩ : Hex) = d.step ⟨row.toNat, col.toNat⟩ := by
  have hrow : (Int64.ofNat row.toNat).toInt = row.toNat :=
    Int64.toInt_ofNat_of_lt (by have := row.toNat_lt; omega)
  have hcol : (Int64.ofNat col.toNat).toInt = col.toNat :=
    Int64.toInt_ofNat_of_lt (by have := col.toNat_lt; omega)
  have hoffset := d.toInt_wordOffset (Int64.ofNat row.toNat)
  have hbounds := d.offset_mem row.toNat
  rw [hrow, Prod.ext_iff] at hoffset
  obtain ⟨hrows, hcols⟩ := hoffset
  simp only at hrows hcols
  have hrow' := row.toNat_lt
  have hcol' := col.toNat_lt
  simp only [wordStep, step, Hex.mk.injEq]
  constructor
  · rw [toInt_add_of_lt (by omega) (by omega), hrow, hrows]
  · rw [toInt_add_of_lt (by omega) (by omega), hcol, hcols]

end Direction

/-! ### Numbers and places in words -/

namespace Frame

variable {frame : Frame}

/-- The number of a cell, in words. -/
def wordIndex? (frame : Frame) (row col : UInt32) : Option UInt32 :=
  if row < .ofNat frame.height ∧ col < .ofNat frame.width then
    some (row * .ofNat frame.width + col)
  else none

/-- A row or column in a signed word, as an unsigned word of half the length, if it is one. -/
def coordinate? (x : Int64) : Option UInt32 :=
  if 0 ≤ x ∧ x < Int64.ofNat UInt32.size then some (.ofNat x.toNatClampNeg) else none

/-- The number of a cell whose row and column are given in signed words. -/
def signedIndex? (frame : Frame) (row col : Int64) : Option UInt32 := do
  if row < 0 ∨ col < 0 then none
  else
    let row ← coordinate? row
    let col ← coordinate? col
    frame.wordIndex? row col

/-- The row and column of the cell with a given number, in words. -/
def wordHex (frame : Frame) (i : UInt32) : UInt32 × UInt32 :=
  (i / .ofNat frame.width, i % .ofNat frame.width)

/-- The word that a link of a cell is kept in when the board is laid out. -/
def wordLink (frame : Frame) (i : UInt32) (d : Direction) : UInt32 :=
  let (row, col) := frame.wordHex i
  let (row, col) := d.wordStep (.ofNat row.toNat) (.ofNat col.toNat)
  (frame.signedIndex? row col).getD Links.missing

/-- A number below the extent of a frame is a word, if that extent is one. -/
theorem exists_word_eq {x : Int} {extent : Nat} (hextent : (UInt32.ofNat extent).toNat = extent)
    (hnonneg : 0 ≤ x) (hlt : x < extent) : ∃ w : UInt32, x = w.toNat := by
  have hword := (UInt32.ofNat extent).toNat_lt
  refine ⟨.ofNat x.toNat, ?_⟩
  rw [UInt32.toNat_ofNat_of_lt' (by change _ < 2 ^ 32; omega), Int.toNat_of_nonneg hnonneg]

/-- A signed word is cut down to the unsigned word of its value. -/
theorem coordinate?_eq_some_iff {x : Int64} {w : UInt32} :
    coordinate? x = some w ↔ x.toInt = w.toNat := by
  have hsize : (Int64.ofNat UInt32.size).toInt = 2 ^ 32 := by decide
  have hlt := w.toNat_lt
  simp only [coordinate?, Int64.le_iff_toInt_le, Int64.lt_iff_toInt_lt, hsize, Int64.toInt_zero]
  split
  next hin =>
    have hclamp : (UInt32.ofNat x.toNatClampNeg).toNat = x.toInt.toNat :=
      UInt32.toNat_ofNat_of_lt' (by change x.toInt.toNat < 2 ^ 32; omega)
    rw [Option.some.injEq, ← UInt32.toNat_inj, hclamp]
    omega
  next hout =>
    simp only [reduceCtorEq, false_iff]
    omega

/-- Signed words give a number if they are rows and columns that give one. -/
theorem signedIndex?_eq_some_iff {row col : Int64} {w : UInt32} :
    frame.signedIndex? row col = some w ↔
      ∃ r c : UInt32, row.toInt = r.toNat ∧ col.toInt = c.toNat ∧
        frame.wordIndex? r c = some w := by
  rw [signedIndex?]
  split
  next hnegative =>
    rw [Int64.lt_iff_toInt_lt, Int64.lt_iff_toInt_lt, Int64.toInt_zero] at hnegative
    simp only [reduceCtorEq, false_iff]
    rintro ⟨r, c, hr, hc, -⟩
    omega
  next =>
    simp only [Option.bind_eq_bind, Option.bind_eq_some_iff, coordinate?_eq_some_iff]
    constructor
    · rintro ⟨r, hr, c, hc, hw⟩
      exact ⟨r, c, hr, hc, hw⟩
    · rintro ⟨r, c, hr, hc, hw⟩
      exact ⟨r, hr, c, hc, hw⟩

section Words

variable (harea : frame.height * frame.width < UInt32.size)

include harea

/-- In a frame of fewer cells than words, width and height are words unless there are no cells. -/
theorem toNat_ofNat_extent (hpos : 0 < frame.height * frame.width) :
    (UInt32.ofNat frame.height).toNat = frame.height ∧
      (UInt32.ofNat frame.width).toNat = frame.width := by
  have hrows : frame.height ≤ frame.height * frame.width :=
    Nat.le_mul_of_pos_right _ (Nat.pos_of_mul_pos_left hpos)
  have hcols : frame.width ≤ frame.height * frame.width :=
    Nat.le_mul_of_pos_left _ (Nat.pos_of_mul_pos_right hpos)
  exact ⟨UInt32.toNat_ofNat_of_lt' (by omega), UInt32.toNat_ofNat_of_lt' (by omega)⟩

/-- A comparison of words tells whether a row and column lie in the frame. -/
theorem lt_extent_iff (row col : UInt32) :
    row < .ofNat frame.height ∧ col < .ofNat frame.width ↔
      frame.Contains ⟨row.toNat, col.toNat⟩ := by
  have hcontains : frame.Contains ⟨row.toNat, col.toNat⟩ ↔
      row.toNat < frame.height ∧ col.toNat < frame.width := by
    simp only [Contains]
    omega
  rw [hcontains, UInt32.lt_iff_toNat_lt, UInt32.lt_iff_toNat_lt]
  rcases Nat.eq_zero_or_pos (frame.height * frame.width) with hzero | hpos
  · -- Without any cells, one of the two extents is zero, also as a word.
    rcases Nat.mul_eq_zero.1 hzero with hzero | hzero <;> simp [hzero]
  · obtain ⟨hheight, hwidth⟩ := toNat_ofNat_extent harea hpos
    rw [hheight, hwidth]

/-- The number of a cell in words is its number. -/
theorem toNat_wordIndex? (row col : UInt32) :
    (frame.wordIndex? row col).map UInt32.toNat = frame.index? ⟨row.toNat, col.toNat⟩ := by
  have hiff := lt_extent_iff harea row col
  rw [wordIndex?, index?]
  split
  next hin =>
    rw [if_pos (hiff.1 hin), Option.map_some, Int.toNat_natCast, Int.toNat_natCast]
    -- The number is below the count of cells, so neither the product nor the sum wraps.
    have hlt := lt_of_index? (index?_eq_some_iff.2 ⟨hiff.1 hin, rfl⟩)
    have hwidth := (toNat_ofNat_extent harea (by omega)).2
    rw [Int.toNat_natCast, Int.toNat_natCast] at hlt
    rw [UInt32.toNat_add, UInt32.toNat_mul, hwidth, Nat.mod_add_mod,
      Nat.mod_eq_of_lt (hlt.trans harea)]
  next hout => rw [if_neg (mt hiff.2 hout), Option.map_none]

/-- The row and column of a cell in words are its row and column. -/
theorem toNat_wordHex {i : UInt32} (hi : i.toNat < frame.height * frame.width) :
    (⟨(frame.wordHex i).1.toNat, (frame.wordHex i).2.toNat⟩ : Hex) = frame.hex i.toNat := by
  have hwidth := (toNat_ofNat_extent harea (by omega)).2
  rw [wordHex, UInt32.toNat_div, UInt32.toNat_mod, hwidth, hex]

/-- The number of a cell whose row and column are given in signed words is its number; what does
not fit into unsigned words is outside. -/
theorem toNat_signedIndex? (row col : Int64) :
    (frame.signedIndex? row col).map UInt32.toNat = frame.index? ⟨row.toInt, col.toInt⟩ := by
  ext i
  rw [Option.map_eq_some_iff]
  simp only [signedIndex?_eq_some_iff]
  constructor
  · rintro ⟨w, ⟨r, c, hr, hc, hw⟩, rfl⟩
    rw [hr, hc, ← toNat_wordIndex? harea, hw, Option.map_some]
  · intro hi
    obtain ⟨⟨hrow₀, hrow, hcol₀, hcol⟩, -⟩ := index?_eq_some_iff.1 hi
    have hlt := lt_of_index? hi
    -- A row and column in the frame are words, since the extents are.
    obtain ⟨hheight, hwidth⟩ := toNat_ofNat_extent harea (by omega)
    obtain ⟨r, hr⟩ : ∃ r : UInt32, row.toInt = r.toNat := exists_word_eq hheight hrow₀ hrow
    obtain ⟨c, hc⟩ : ∃ c : UInt32, col.toInt = c.toNat := exists_word_eq hwidth hcol₀ hcol
    rw [hr, hc, ← toNat_wordIndex? harea, Option.map_eq_some_iff] at hi
    obtain ⟨w, hw, rfl⟩ := hi
    exact ⟨w, ⟨r, c, hr, hc, hw⟩, rfl⟩

omit harea in
/-- The missing word is no number: there are too few cells for it. -/
theorem lt_missing (harea : frame.height * frame.width < UInt32.size) {i : Nat}
    (hi : i < frame.height * frame.width) : i < Links.missing.toNat :=
  Nat.lt_of_lt_of_le hi (Nat.le_of_lt_succ harea)

/-- A link that is kept in a word leads to the neighbour on the lattice. -/
theorem ofWord_wordLink {i : UInt32} (hi : i.toNat < frame.height * frame.width) (d : Direction) :
    Links.ofWord (frame.wordLink i d) = frame.index? (d.step (frame.hex i.toNat)) := by
  have hstep := d.toInt_wordStep (frame.wordHex i).1 (frame.wordHex i).2
  rw [toNat_wordHex harea hi] at hstep
  have hindex := toNat_signedIndex? harea
    (d.wordStep (.ofNat (frame.wordHex i).1.toNat) (.ofNat (frame.wordHex i).2.toNat)).1
    (d.wordStep (.ofNat (frame.wordHex i).1.toNat) (.ofNat (frame.wordHex i).2.toNat)).2
  rw [hstep] at hindex
  rw [← hindex]
  simp only [wordLink]
  generalize hword : frame.signedIndex? _ _ = word at hindex ⊢
  cases word with
  | none => rfl
  | some w =>
    -- A number is below the missing word, so it is not taken for it.
    have hlt : w.toNat < Links.missing.toNat := lt_missing harea (lt_of_index? hindex.symm)
    have hne : w ≠ Links.missing := by
      rintro rfl
      exact Nat.lt_irrefl _ hlt
    rw [Option.getD_some, Links.ofWord, if_neg hne, Option.map_some]

end Words

/-! ### Cells inside -/

/-- A cell inside is in no outermost row and no outermost column. -/
def Inside (frame : Frame) (h : Hex) : Prop :=
  0 < h.row ∧ h.row + 1 < frame.height ∧ 0 < h.col ∧ h.col + 1 < frame.width

instance (frame : Frame) (h : Hex) : Decidable (frame.Inside h) := by
  unfold Inside
  infer_instance

/-- No step from a cell inside leaves the frame. -/
theorem Inside.contains_step {h : Hex} (hin : frame.Inside h) (d : Direction) :
    frame.Contains (d.step h) := by
  obtain ⟨hrow₀, hrow, hcol₀, hcol⟩ := hin
  have hoffset := d.offset_mem h.row
  simp only [Contains, Direction.step]
  omega

/-- The numbers below the count are exactly those of the cells in the frame. -/
theorem index?_eq_some_iff_hex {h : Hex} {i : Nat} :
    frame.index? h = some i ↔ i < frame.height * frame.width ∧ frame.hex i = h := by
  constructor
  · intro hi
    exact ⟨lt_of_index? hi, hex_of_index? hi⟩
  · rintro ⟨hi, rfl⟩
    exact index?_hex hi

/-- The cells in the frame are exactly those with a number. -/
theorem contains_iff {h : Hex} : frame.Contains h ↔ ∃ i, frame.index? h = some i := by
  constructor
  · intro hin
    exact ⟨_, index?_eq_some_iff.2 ⟨hin, rfl⟩⟩
  · rintro ⟨i, hi⟩
    exact (index?_eq_some_iff.1 hi).1

/-- To number the cells of a frame is to count them. -/
theorem bijOn_hex (frame : Frame) :
    Set.BijOn frame.hex (Set.Iio (frame.height * frame.width)) {h | frame.Contains h} := by
  refine ⟨?_, ?_, ?_⟩
  · intro i hi
    exact contains_iff.2 ⟨i, index?_hex hi⟩
  · intro i hi j hj hij
    -- The number can be read off the place.
    have hnumber : frame.index? (frame.hex i) = frame.index? (frame.hex j) := congrArg _ hij
    rw [index?_hex hi, index?_hex hj] at hnumber
    exact Option.some.inj hnumber
  · intro h hin
    obtain ⟨i, hi⟩ := contains_iff.1 hin
    exact ⟨i, lt_of_index? hi, hex_of_index? hi⟩

end Frame

namespace Board

/-- The links of a board are the neighbourhoods of the lattice, cut off at the edge of the frame. -/
structure ClippedLattice (board : Board) : Prop where
  /-- The cell numbers stand for the rows and columns in the frame, one for each. -/
  bijOn_hex : Set.BijOn board.hex (Set.Iio board.cells.size) {h | board.Contains h}
  /-- The number of a row and column is the one that stands for it. -/
  index?_eq_some_iff : ∀ {h : Hex} {i : Nat},
    board.index? h = some i ↔ i < board.cells.size ∧ board.hex i = h
  /-- A cell is linked to the neighbour on the lattice, exactly if that is in the frame. -/
  neighbor?_eq_some_iff : ∀ {i j : Nat} {d : Direction}, i < board.cells.size →
    (board.neighbor? i d = some j ↔
      board.Contains (d.step (board.hex i)) ∧ board.index? (d.step (board.hex i)) = some j)
  /-- Links go both ways. -/
  neighbor?_opposite_iff : ∀ {i j : Nat} {d : Direction},
    board.neighbor? i d = some j ↔ board.neighbor? j d.opposite = some i
  /-- No cell is its own neighbour. -/
  neighbor?_ne_self : ∀ (i : Nat) (d : Direction), board.neighbor? i d ≠ some i
  /-- The neighbours of a cell in different directions are different. -/
  eq_of_neighbor? : ∀ {i j : Nat} {d d' : Direction},
    board.neighbor? i d = some j → board.neighbor? i d' = some j → d = d'
  /-- A cell inside has all six neighbours. -/
  exists_neighbor? : ∀ {i : Nat}, i < board.cells.size → board.Inside (board.hex i) →
    ∀ d, ∃ j, board.neighbor? i d = some j

/-- What is worked out in words when a board is laid out stands for the numbers, places and links
of its cells. -/
structure LinkedInWords (board : Board) : Prop where
  /-- The words for the row and column of a cell. -/
  toNat_wordHex : ∀ {i : UInt32}, i.toNat < board.cells.size →
    (⟨(board.wordHex i).1.toNat, (board.wordHex i).2.toNat⟩ : Hex) = board.hex i.toNat
  /-- The word for the number of a row and column. -/
  toNat_wordIndex? : ∀ row col : UInt32,
    (board.wordIndex? row col).map UInt32.toNat = board.index? ⟨row.toNat, col.toNat⟩
  /-- The word that a link is kept in. -/
  ofWord_wordLink : ∀ {i : UInt32}, i.toNat < board.cells.size → ∀ d,
    Links.ofWord (board.wordLink i d) = board.neighbor? i.toNat d
  /-- The word that stands for a missing neighbour is no number of a cell. -/
  lt_missing : ∀ {i : Nat}, i < board.cells.size → i < Links.missing.toNat

variable {board : Board}

/-- The links of a wired board are the clipped lattice. -/
theorem Wired.clippedLattice (hwired : board.Wired) : board.ClippedLattice where
  bijOn_hex := by
    rw [hwired.size_eq]
    exact board.toFrame.bijOn_hex
  index?_eq_some_iff := by
    rw [hwired.size_eq]
    exact Frame.index?_eq_some_iff_hex
  neighbor?_eq_some_iff := by
    intro i j d hi
    rw [hwired.size_eq] at hi
    rw [hwired.neighbor?_eq_some_iff, and_iff_right hi, iff_and_self]
    exact fun hj => Frame.contains_iff.2 ⟨j, hj⟩
  neighbor?_opposite_iff := by
    intro i j d
    refine ⟨hwired.neighbor?_opposite, fun h => ?_⟩
    rw [← d.opposite_opposite]
    exact hwired.neighbor?_opposite h
  neighbor?_ne_self i d h := hwired.ne_of_neighbor? h rfl
  eq_of_neighbor? := hwired.eq_of_neighbor?
  exists_neighbor? := by
    intro i hi hin d
    rw [hwired.size_eq] at hi
    obtain ⟨j, hj⟩ := Frame.contains_iff.1 (hin.contains_step d)
    exact ⟨j, hwired.neighbor?_eq_some_iff.2 ⟨hi, hj⟩⟩

/-- A wired board of fewer cells than words is linked in words. -/
theorem Wired.linkedInWords (hwired : board.Wired)
    (harea : board.height * board.width < UInt32.size) : board.LinkedInWords where
  toNat_wordHex := by
    rw [hwired.size_eq]
    exact Frame.toNat_wordHex harea
  toNat_wordIndex? := Frame.toNat_wordIndex? harea
  ofWord_wordLink := by
    intro i hi d
    rw [hwired.size_eq] at hi
    rw [Frame.ofWord_wordLink harea hi]
    ext j
    rw [hwired.neighbor?_eq_some_iff, and_iff_right hi]
  lt_missing := by
    rw [hwired.size_eq]
    exact Frame.lt_missing harea

/-- On the board of a world of fewer cells than words, the links are the neighbourhoods of the
lattice cut off at the edge, and this is what is worked out in words. -/
theorem links_ofMap (world : WorldMap) (harea : world.width * world.height < UInt32.size) :
    (ofMap world).ClippedLattice ∧ (ofMap world).LinkedInWords := by
  have hwired := wired_ofMap world
  refine ⟨hwired.clippedLattice, hwired.linkedInWords ?_⟩
  rw [Nat.mul_comm]
  exact harea

/-- A world of one column: in an odd row every step to the right leads off the board, in an even row
every step to the left does. -/
theorem links_ofMap_column :
    let world : WorldMap := { width := 1, height := 3, tiles := #[.clear, .clear, .clear] }
    world.width * world.height < UInt32.size ∧
      (ofMap world).ClippedLattice ∧ (ofMap world).LinkedInWords ∧
      Direction.all.map ((ofMap world).neighbor? 1) = [none, none, some 2, none, some 0, none] ∧
      Direction.all.map ((ofMap world).neighbor? 2) = [none, none, none, none, none, some 1] := by
  intro world
  have harea : world.width * world.height < UInt32.size := by decide
  obtain ⟨hclipped, hwords⟩ := links_ofMap world harea
  exact ⟨harea, hclipped, hwords, by decide +kernel, by decide +kernel⟩

end Board

end Formicary
