import Formicary.Proofs.Board.Ground

/-!
# What lies on a cell

What each change of a cell does to the food and to the markers on it, and what it leaves alone; for
the ant on a cell `Ground.lean` says the same.

The markers of a colony share a byte, and a marker is read and written by masks. `Cell.bit` is one
bit of that byte. `hasMarker_eq` reads a marker off its bit, and what the masks do is said by bits
(`bit_addMarker`, `bit_removeMarker`). The byte has more bits than there are markers; a cell is tidy
if the others are clear, and then `hasAnyMarker_iff` holds, which looks at the whole byte.
-/

namespace Formicary

namespace Cell

variable {cell cell' : Cell} {color other : Color} {marker i : Nat}

/-! ### Food -/

@[simp]
theorem food_addMarker (cell : Cell) (color : Color) (marker : Nat) :
    (cell.addMarker color marker).food = cell.food := by
  rw [addMarker]
  split
  · cases color <;> rfl
  · rfl

@[simp]
theorem food_removeMarker (cell : Cell) (color : Color) (marker : Nat) :
    (cell.removeMarker color marker).food = cell.food := by
  rw [removeMarker]
  split
  · cases color <;> rfl
  · rfl

@[simp]
theorem food_setAnt (cell : Cell) (id : Nat) : (cell.setAnt id).food = cell.food := by
  rw [setAnt]
  split <;> rfl

@[simp]
theorem food_removeAnt (cell : Cell) : cell.removeAnt.food = cell.food := rfl

/-- Off the rock, food that is laid down comes on top. -/
theorem toNat_food_depositFood {amount : UInt32} (hrock : cell.isRock = false)
    (h : cell.food.toNat + amount.toNat < UInt32.size) :
    (cell.depositFood amount).food.toNat = cell.food.toNat + amount.toNat := by
  rw [depositFood, hrock]
  exact (UInt32.toNat_add ..).trans (Nat.mod_eq_of_lt h)

/-- Where there is food, one unit can be taken away. -/
theorem toNat_food_removeFood (h : cell.hasFood = true) :
    cell.removeFood.food.toNat + 1 = cell.food.toNat := by
  have hpos : 0 < cell.food := of_decide_eq_true h
  have hle : (1 : UInt32) ≤ cell.food := UInt32.lt_iff_toNat_lt.1 hpos
  rw [removeFood, if_pos hpos]
  change (cell.food - 1).toNat + 1 = cell.food.toNat
  rw [UInt32.toNat_sub_of_le _ _ hle]
  exact Nat.sub_add_cancel hle

/-- With food or without, what is left is one unit less, as far as there is one. -/
theorem toNat_food_removeFood_eq (cell : Cell) :
    cell.removeFood.food.toNat = cell.food.toNat - 1 := by
  cases hfood : cell.hasFood with
  | true => exact Nat.eq_sub_of_add_eq (toNat_food_removeFood hfood)
  | false =>
    have hnone : ¬0 < cell.food := of_decide_eq_false hfood
    have hzero : cell.food.toNat = 0 :=
      Nat.eq_zero_of_not_pos fun hpos => hnone (UInt32.lt_iff_toNat_lt.2 hpos)
    rw [removeFood, if_neg hnone, hzero]

/-! ### The bytes of the markers -/

theorem marks_setMarks (cell : Cell) (color : Color) (marks : UInt8) :
    (cell.setMarks color marks).marks color = marks := by
  cases color <;> rfl

theorem marks_setMarks_of_ne (hne : other ≠ color) (marks : UInt8) :
    (cell.setMarks color marks).marks other = cell.marks other := by
  cases color <;> cases other <;> first | rfl | exact absurd rfl hne

/-- Off the rock, a marker that exists is set by its mask. -/
theorem addMarker_eq (hrock : cell.isRock = false) (hmarker : marker < markerCount) :
    cell.addMarker color marker = cell.setMarks color (cell.marks color ||| markBit marker) := by
  rw [addMarker, hrock, if_pos (by simp [hmarker])]

/-- A marker that exists is cleared by its mask. -/
theorem removeMarker_eq (hmarker : marker < markerCount) :
    cell.removeMarker color marker =
      cell.setMarks color (cell.marks color &&& ~~~markBit marker) := by
  rw [removeMarker, if_pos hmarker]

/-- To set a marker leaves the byte of the other colony alone. -/
theorem marks_addMarker_of_ne (hne : other ≠ color) (marker : Nat) :
    (cell.addMarker color marker).marks other = cell.marks other := by
  rw [addMarker]
  split
  · exact marks_setMarks_of_ne hne _
  · rfl

/-- To clear a marker leaves the byte of the other colony alone. -/
theorem marks_removeMarker_of_ne (hne : other ≠ color) (marker : Nat) :
    (cell.removeMarker color marker).marks other = cell.marks other := by
  rw [removeMarker]
  split
  · exact marks_setMarks_of_ne hne _
  · rfl

@[simp]
theorem marks_depositFood (cell : Cell) (amount : UInt32) :
    (cell.depositFood amount).marks = cell.marks := by
  rw [depositFood]
  split <;> (funext color; cases color <;> rfl)

@[simp]
theorem marks_removeFood (cell : Cell) : cell.removeFood.marks = cell.marks := by
  rw [removeFood]
  split <;> (funext color; cases color <;> rfl)

@[simp]
theorem marks_setAnt (cell : Cell) (id : Nat) : (cell.setAnt id).marks = cell.marks := by
  rw [setAnt]
  split <;> (funext color; cases color <;> rfl)

theorem marks_removeAnt (cell : Cell) (color : Color) :
    cell.removeAnt.marks color = cell.marks color := by
  cases color <;> rfl

/-! ### Their bits -/

/-- A bit of the markers of a colony. -/
def bit (cell : Cell) (color : Color) (i : Nat) : Bool := (cell.marks color).toBitVec.getLsbD i

theorem bit_congr (h : cell'.marks color = cell.marks color) (i : Nat) :
    cell'.bit color i = cell.bit color i := by
  rw [bit, h, bit]

/-- The mask of a marker has one bit. -/
theorem toBitVec_markBit (hmarker : marker < markerCount) :
    (markBit marker).toBitVec = BitVec.twoPow 8 marker := by
  revert marker
  decide

/-- The mask of a marker reads its bit. -/
theorem and_markBit_eq_zero_iff (marks : UInt8) (hmarker : marker < markerCount) :
    marks &&& markBit marker = 0 ↔ marks.toBitVec.getLsbD marker = false := by
  have hmask : BitVec.twoPow 8 marker ≠ 0#8 := by
    revert marker
    decide
  rw [← UInt8.toBitVec_inj, UInt8.toBitVec_and, toBitVec_markBit hmarker, BitVec.and_twoPow]
  cases marks.toBitVec.getLsbD marker with
  | false => simp
  | true => simp [hmask]

/-- A marker that exists is set if its bit is. -/
theorem hasMarker_eq (cell : Cell) (color : Color) (marker : Nat) :
    cell.hasMarker color marker = (decide (marker < markerCount) && cell.bit color marker) := by
  rw [hasMarker]
  by_cases hmarker : marker < markerCount
  · simp [and_markBit_eq_zero_iff _ hmarker, bit]
  · simp [hmarker]

theorem hasMarker_congr (h : cell'.marks color = cell.marks color) (marker : Nat) :
    cell'.hasMarker color marker = cell.hasMarker color marker := by
  rw [hasMarker, h, hasMarker]

/-- Off the rock, to set a marker sets its bit and no other. -/
theorem bit_addMarker (hrock : cell.isRock = false) (hmarker : marker < markerCount) :
    (cell.addMarker color marker).bit other i =
      (cell.bit other i || decide (other = color ∧ i = marker)) := by
  by_cases hother : other = color
  · subst hother
    rw [bit, addMarker_eq hrock hmarker, marks_setMarks, UInt8.toBitVec_or,
      toBitVec_markBit hmarker, BitVec.getLsbD_or, BitVec.getLsbD_twoPow, bit]
    have hwidth : marker < 8 := Nat.lt_trans hmarker (by decide)
    simp [hwidth, eq_comm]
  · rw [bit_congr (marks_addMarker_of_ne hother _)]
    simp [hother]

/-- To clear a marker clears its bit and no other. -/
theorem bit_removeMarker (hmarker : marker < markerCount) :
    (cell.removeMarker color marker).bit other i =
      (cell.bit other i && !decide (other = color ∧ i = marker)) := by
  by_cases hother : other = color
  · subst hother
    rw [bit, removeMarker_eq hmarker, marks_setMarks, UInt8.toBitVec_and, UInt8.toBitVec_not,
      toBitVec_markBit hmarker, BitVec.getLsbD_and, BitVec.getLsbD_not, BitVec.getLsbD_twoPow, bit]
    have hwidth : marker < 8 := Nat.lt_trans hmarker (by decide)
    by_cases hi : i < 8
    · simp [hwidth, hi, eq_comm]
    · -- Beyond the byte there is nothing to clear.
      simp [BitVec.getLsbD_of_ge _ _ (Nat.le_of_not_lt hi)]
  · rw [bit_congr (marks_removeMarker_of_ne hother _)]
    simp [hother]

/-! ### Markers -/

/-- A marker that does not exist is not set. -/
theorem addMarker_of_le (h : markerCount ≤ marker) : cell.addMarker color marker = cell := by
  simp [addMarker, Nat.not_lt_of_le h]

/-- A marker that does not exist is not cleared. -/
theorem removeMarker_of_le (h : markerCount ≤ marker) : cell.removeMarker color marker = cell := by
  rw [removeMarker, if_neg (Nat.not_lt_of_le h)]

theorem hasMarker_addMarker (hrock : cell.isRock = false) :
    (cell.addMarker color marker).hasMarker color marker = decide (marker < markerCount) := by
  rw [hasMarker_eq]
  by_cases hmarker : marker < markerCount
  · simp [bit_addMarker hrock hmarker]
  · simp [hmarker]

theorem hasMarker_removeMarker :
    (cell.removeMarker color marker).hasMarker color marker = false := by
  rw [hasMarker_eq]
  by_cases hmarker : marker < markerCount
  · simp [bit_removeMarker hmarker]
  · simp [hmarker]

/-- To set a marker leaves the others alone. -/
theorem hasMarker_addMarker_of_ne (hne : ¬(other = color ∧ i = marker)) :
    (cell.addMarker color marker).hasMarker other i = cell.hasMarker other i := by
  cases hrock : cell.isRock with
  | true => rw [addMarker_of_isRock hrock]
  | false =>
    obtain hmarker | hmarker := Nat.lt_or_ge marker markerCount
    · simp [hasMarker_eq, bit_addMarker hrock hmarker, hne]
    · rw [addMarker_of_le hmarker]

/-- To clear a marker leaves the others alone. -/
theorem hasMarker_removeMarker_of_ne (hne : ¬(other = color ∧ i = marker)) :
    (cell.removeMarker color marker).hasMarker other i = cell.hasMarker other i := by
  obtain hmarker | hmarker := Nat.lt_or_ge marker markerCount
  · simp [hasMarker_eq, bit_removeMarker hmarker, hne]
  · rw [removeMarker_of_le hmarker]

/-- No bits are set but those of markers that exist. -/
def Tidy (cell : Cell) : Prop := ∀ ⦃color i⦄, cell.bit color i = true → i < markerCount

/-- On a tidy cell the byte of a colony says whether any of its markers is set. -/
theorem Tidy.hasAnyMarker_iff (h : cell.Tidy) :
    cell.hasAnyMarker color = true ↔
      ∃ marker < markerCount, cell.hasMarker color marker = true := by
  have hbits : cell.hasAnyMarker color = true ↔ ∃ i, cell.bit color i = true := by
    simp [hasAnyMarker, ← UInt8.toBitVec_inj, BitVec.zero_iff_eq_false, bit]
  rw [hbits]
  constructor
  · rintro ⟨i, hi⟩
    exact ⟨i, h hi, by simp [hasMarker_eq, h hi, hi]⟩
  · rintro ⟨marker, hmarker, hset⟩
    exact ⟨marker, by simpa [hasMarker_eq, hmarker] using hset⟩

theorem Tidy.of_marks_eq (h : cell.Tidy) (hmarks : ∀ color, cell'.marks color = cell.marks color) :
    cell'.Tidy := by
  intro color i hi
  rw [bit_congr (hmarks color)] at hi
  exact h hi

/-- No marker that can be set makes a cell untidy. -/
theorem Tidy.addMarker (h : cell.Tidy) (color : Color) (marker : Nat) :
    (cell.addMarker color marker).Tidy := by
  cases hrock : cell.isRock with
  | true => rwa [addMarker_of_isRock hrock]
  | false =>
    obtain hmarker | hmarker := Nat.lt_or_ge marker markerCount
    · intro other i hi
      rw [bit_addMarker hrock hmarker, Bool.or_eq_true, decide_eq_true_iff] at hi
      obtain hi | ⟨-, rfl⟩ := hi
      · exact h hi
      · exact hmarker
    · rwa [addMarker_of_le hmarker]

theorem Tidy.removeMarker (h : cell.Tidy) (color : Color) (marker : Nat) :
    (cell.removeMarker color marker).Tidy := by
  obtain hmarker | hmarker := Nat.lt_or_ge marker markerCount
  · intro other i hi
    rw [bit_removeMarker hmarker, Bool.and_eq_true] at hi
    exact h hi.1
  · rwa [removeMarker_of_le hmarker]

end Cell

end Formicary
