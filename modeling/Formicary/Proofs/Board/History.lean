import Formicary.Proofs.Board.Contents

/-!
# The history of a cell

All that happens to a cell is one of six operations, each of which is about one part of what the
cell holds: the food, one marker of one colony, or the ant. What the cell holds after any number of
them can be told from the history alone: a marker and an ant from the last operation that was about
them, the food from the sums that were laid down and taken away. Rock has no history.

* `onlyChanges_perform`: an operation changes nothing but the part that it is about.
* `read_performAll`: what is overwritten by every operation about a part is what the last of them
  has written.
* `food_performAll`: the balance of the food.
* `contents_of_history`: all of this about a new cell.
-/

namespace Formicary

namespace Cell

/-- A part of what a cell holds. -/
inductive Part where
  /-- The food. -/
  | food
  /-- A marker of a colony. -/
  | marker (color : Color) (marker : Nat)
  /-- The ant. -/
  | ant
  deriving DecidableEq

/-- What can be done to a cell. -/
inductive Operation where
  /-- Lay down food. -/
  | depositFood (amount : UInt32)
  /-- Take away one unit of food. -/
  | removeFood
  /-- Set a marker of a colony. There need not be one of this number. -/
  | addMarker (color : Color) (marker : Nat)
  /-- Clear a marker of a colony. There need not be one of this number. -/
  | removeMarker (color : Color) (marker : Nat)
  /-- Put an ant on the cell. -/
  | setAnt (id : Nat)
  /-- Take the ant off the cell. -/
  | removeAnt
  deriving DecidableEq

namespace Operation

/-- The part of the cell that an operation is about. -/
def part : Operation → Part
  | depositFood _ | removeFood => .food
  | addMarker color marker | removeMarker color marker => .marker color marker
  | setAnt _ | removeAnt => .ant

/-- The food that an operation brings. -/
def amount : Operation → Nat
  | depositFood amount => amount.toNat
  | _ => 0

/-- The ant that stands on a cell after an operation about it. -/
def ant? : Operation → Option Nat
  | setAnt id => some id
  | _ => none

/-- What an operation makes of an amount of food. From nothing, nothing is taken away. -/
def stock (food : Nat) : Operation → Nat
  | depositFood amount => food + amount.toNat
  | removeFood => food - 1
  | addMarker _ _ | removeMarker _ _ | setAnt _ | removeAnt => food

/-- An operation does not take the food on a cell out of the range of a word. -/
def Fits (cell : Cell) : Operation → Prop
  | depositFood amount => cell.food.toNat + amount.toNat < UInt32.size
  | _ => True

instance (cell : Cell) : DecidablePred (Fits cell)
  | depositFood amount => inferInstanceAs (Decidable (cell.food.toNat + amount.toNat < UInt32.size))
  | removeFood | addMarker _ _ | removeMarker _ _ | setAnt _ | removeAnt => .isTrue trivial

end Operation

/-- The cell after an operation. -/
def perform (cell : Cell) : Operation → Cell
  | .depositFood amount => cell.depositFood amount
  | .removeFood => cell.removeFood
  | .addMarker color marker => cell.addMarker color marker
  | .removeMarker color marker => cell.removeMarker color marker
  | .setAnt id => cell.setAnt id
  | .removeAnt => cell.removeAnt

/-- The cell after a number of operations. -/
def performAll (cell : Cell) (history : List Operation) : Cell := history.foldl perform cell

/-- No deposit of a history takes the food on a cell out of range. Nothing ever lies on rock, so
there all deposits fit. -/
def InRange : Cell → List Operation → Prop
  | _, [] => True
  | cell, op :: rest => op.Fits cell ∧ InRange (cell.perform op) rest

instance decidableInRange : (cell : Cell) → (history : List Operation) →
    Decidable (InRange cell history)
  | _, [] => .isTrue trivial
  | cell, op :: rest =>
    have := decidableInRange (cell.perform op) rest
    inferInstanceAs (Decidable (op.Fits cell ∧ InRange (cell.perform op) rest))

/-! ### What can be told from a history -/

/-- The last operation of a history that is about a part of the cell. -/
def lastAbout (part : Part) (history : List Operation) : Option Operation :=
  history.reverse.find? (·.part = part)

/-- The food that a history brings. -/
def deposited : List Operation → Nat
  | [] => 0
  | op :: rest => op.amount + deposited rest

/-- How often a history takes a unit away from an amount of food. It does not count where nothing
is left. -/
def withdrawn : Nat → List Operation → Nat
  | _, [] => 0
  | food, op :: rest =>
    (if op = .removeFood ∧ 0 < food then 1 else 0) + withdrawn (op.stock food) rest

variable {cell : Cell} {op : Operation} {part : Part} {history : List Operation}

theorem lastAbout_cons (part : Part) (op : Operation) (history : List Operation) :
    lastAbout part (op :: history) =
      (lastAbout part history).or (if op.part = part then some op else none) := by
  rw [lastAbout, List.reverse_cons, List.find?_append, List.find?_singleton, lastAbout]
  simp only [decide_eq_true_eq]

theorem part_of_lastAbout (h : lastAbout part history = some op) : op.part = part := by
  rw [lastAbout] at h
  simpa using List.find?_some h

/-! ### What an operation leaves alone -/

/-- Two cells differ in no more than a part of what they hold. -/
structure OnlyChanges (part : Part) (cell cell' : Cell) : Prop where
  /-- The terrain, the place and the links are the same. -/
  ground_eq : cell'.ground = cell.ground
  /-- The food is the same, if the part is not the food. -/
  food_eq : part ≠ .food → cell'.food = cell.food
  /-- The markers are the same, but for the part. -/
  hasMarker_eq : ∀ {color marker}, part ≠ .marker color marker →
    cell'.hasMarker color marker = cell.hasMarker color marker
  /-- The bytes of the markers are the same, but for the one that the part belongs to. -/
  marks_eq : ∀ {color}, (∀ marker, part ≠ .marker color marker) →
    cell'.marks color = cell.marks color
  /-- The ant is the same, if the part is not the ant. -/
  ant_eq : part ≠ .ant → cell'.ant = cell.ant

/-- An operation on food or on the ant changes no marker. -/
theorem OnlyChanges.of_marks_eq {cell' : Cell} (hground : cell'.ground = cell.ground)
    (hmarks : ∀ color, cell'.marks color = cell.marks color)
    (hfood : part ≠ .food → cell'.food = cell.food) (hant : part ≠ .ant → cell'.ant = cell.ant) :
    OnlyChanges part cell cell' where
  ground_eq := hground
  food_eq := hfood
  hasMarker_eq _ := hasMarker_congr (hmarks _) _
  marks_eq _ := hmarks _
  ant_eq := hant

/-- An operation on a marker changes neither food nor ant, no other marker of the colony, and none
of the other colony. -/
theorem OnlyChanges.of_marker {cell' : Cell} {color : Color} {marker : Nat}
    (hground : cell'.ground = cell.ground) (hfood : cell'.food = cell.food)
    (hset : ∀ {other i}, ¬(other = color ∧ i = marker) →
      cell'.hasMarker other i = cell.hasMarker other i)
    (hmarks : ∀ {other}, other ≠ color → cell'.marks other = cell.marks other)
    (hant : cell'.ant = cell.ant) : OnlyChanges (.marker color marker) cell cell' where
  ground_eq := hground
  food_eq _ := hfood
  hasMarker_eq hne := hset fun h => hne (by rw [h.1, h.2])
  marks_eq hne := hmarks fun h => hne marker (by rw [h])
  ant_eq _ := hant

/-- An operation changes nothing but the part of the cell that it is about. -/
theorem onlyChanges_perform (cell : Cell) (op : Operation) :
    OnlyChanges op.part cell (cell.perform op) := by
  cases op with
  | depositFood amount =>
    exact .of_marks_eq (ground_depositFood ..) (congrFun (marks_depositFood ..))
      (absurd rfl) fun _ => ant_depositFood ..
  | removeFood =>
    exact .of_marks_eq (ground_removeFood _) (congrFun (marks_removeFood _))
      (absurd rfl) fun _ => ant_removeFood _
  | addMarker color marker =>
    exact .of_marker (ground_addMarker ..) (food_addMarker ..) hasMarker_addMarker_of_ne
      (marks_addMarker_of_ne · _) (ant_addMarker ..)
  | removeMarker color marker =>
    exact .of_marker (ground_removeMarker ..) (food_removeMarker ..) hasMarker_removeMarker_of_ne
      (marks_removeMarker_of_ne · _) (ant_removeMarker ..)
  | setAnt id =>
    exact .of_marks_eq (ground_setAnt ..) (congrFun (marks_setAnt ..))
      (fun _ => food_setAnt ..) (absurd rfl)
  | removeAnt =>
    exact .of_marks_eq (ground_removeAnt _) (marks_removeAnt _) (fun _ => food_removeAnt _)
      (absurd rfl)

theorem isRock_perform (cell : Cell) (op : Operation) :
    (cell.perform op).isRock = cell.isRock :=
  isRock_eq_of_ground (onlyChanges_perform cell op).ground_eq

/-- No history changes what a cell is made of, where it lies and what is linked to it. -/
theorem ground_performAll (cell : Cell) (history : List Operation) :
    (cell.performAll history).ground = cell.ground := by
  induction history generalizing cell with
  | nil => rfl
  | cons op rest ih => exact (ih _).trans (onlyChanges_perform cell op).ground_eq

/-! ### Rock -/

/-- Nothing can be done to bare rock. -/
theorem Bare.perform_eq (h : cell.Bare) (hrock : cell.isRock = true) (op : Operation) :
    cell.perform op = cell := by
  cases op with
  | depositFood amount => exact depositFood_of_isRock hrock amount
  | removeFood => exact h.removeFood_eq
  | addMarker color marker => exact addMarker_of_isRock hrock color marker
  | removeMarker color marker => exact h.removeMarker_eq color marker
  | setAnt id => exact setAnt_of_isRock hrock id
  | removeAnt => exact h.removeAnt_eq

/-- Bare rock has no history. -/
theorem Bare.performAll_eq (h : cell.Bare) (hrock : cell.isRock = true)
    (history : List Operation) : cell.performAll history = cell := by
  induction history with
  | nil => rfl
  | cons op rest ih =>
    rw [performAll, List.foldl_cons, h.perform_eq hrock op]
    exact ih

/-! ### Markers and ants -/

/-- If a reading of the cell is overwritten by every operation about a part and left alone by all
others, then after a history it is what the last operation about the part has written. -/
theorem read_performAll {β : Type} (read : Cell → β) {written : Operation → β}
    (hkeep : ∀ (cell : Cell) op, op.part ≠ part → read (cell.perform op) = read cell)
    (hwrite : ∀ (cell : Cell) op, cell.isRock = false → op.part = part →
      read (cell.perform op) = written op)
    (hrock : cell.isRock = false) (history : List Operation) :
    read (cell.performAll history) = (lastAbout part history).elim (read cell) written := by
  induction history generalizing cell with
  | nil => rfl
  | cons op rest ih =>
    have hrest : read (cell.performAll (op :: rest)) =
        (lastAbout part rest).elim (read (cell.perform op)) written :=
      ih (isRock_perform cell op ▸ hrock)
    rw [hrest, lastAbout_cons]
    cases lastAbout part rest with
    | some last => rfl
    | none =>
      -- Nothing in the rest is about the part, so the first operation decides.
      by_cases hpart : op.part = part
      · simp [hpart, hwrite cell op hrock hpart]
      · simp [hpart, hkeep cell op hpart]

/-- A marker is set if the last operation about it has set it. -/
theorem hasMarker_performAll (hrock : cell.isRock = false) (color : Color) (marker : Nat)
    (history : List Operation) :
    (cell.performAll history).hasMarker color marker =
      (lastAbout (.marker color marker) history).elim (cell.hasMarker color marker)
        fun op => decide (marker < markerCount ∧ op = .addMarker color marker) := by
  refine read_performAll (·.hasMarker color marker) (fun cell op hne => ?_)
    (fun cell op hrock hpart => ?_) hrock history
  · exact (onlyChanges_perform cell op).hasMarker_eq hne
  · -- Two operations are about this marker, and each is given the same colony and number.
    cases op with
    | addMarker =>
      obtain ⟨rfl, rfl⟩ := Part.marker.inj hpart
      simp [perform, hasMarker_addMarker hrock]
    | removeMarker =>
      obtain ⟨rfl, rfl⟩ := Part.marker.inj hpart
      simp [perform, hasMarker_removeMarker]
    | _ => cases hpart

/-- The ant on the cell is the one that the last operation about ants has put there. -/
theorem ant_performAll (hrock : cell.isRock = false) (history : List Operation) :
    (cell.performAll history).ant = (lastAbout .ant history).elim cell.ant Operation.ant? := by
  refine read_performAll Cell.ant (fun cell op hne => ?_) (fun cell op hrock hpart => ?_) hrock
    history
  · exact (onlyChanges_perform cell op).ant_eq hne
  · cases op with
    | setAnt id => exact ant_setAnt hrock id
    | removeAnt => rfl
    | _ => cases hpart

/-- No operation sets bits that no marker has. -/
theorem Tidy.perform (h : cell.Tidy) (op : Operation) : (cell.perform op).Tidy := by
  cases op with
  | depositFood amount => exact h.of_marks_eq (congrFun (marks_depositFood ..))
  | removeFood => exact h.of_marks_eq (congrFun (marks_removeFood _))
  | addMarker color marker => exact h.addMarker color marker
  | removeMarker color marker => exact h.removeMarker color marker
  | setAnt id => exact h.of_marks_eq (congrFun (marks_setAnt ..))
  | removeAnt => exact h.of_marks_eq (marks_removeAnt _)

theorem Tidy.performAll (h : cell.Tidy) (history : List Operation) :
    (cell.performAll history).Tidy := by
  induction history generalizing cell with
  | nil => exact h
  | cons op rest ih => exact ih (h.perform op)

/-! ### Food -/

/-- An operation in range makes of the food on a cell what it makes of the amount. -/
theorem toNat_food_perform (hrock : cell.isRock = false) (hfits : op.Fits cell) :
    (cell.perform op).food.toNat = op.stock cell.food.toNat := by
  cases op with
  | depositFood amount => exact toNat_food_depositFood hrock hfits
  | removeFood => exact toNat_food_removeFood_eq cell
  | addMarker color marker => exact congrArg _ (food_addMarker ..)
  | removeMarker color marker => exact congrArg _ (food_removeMarker ..)
  | setAnt id => exact congrArg _ (food_setAnt ..)
  | removeAnt => exact congrArg _ (food_removeAnt _)

/-- What an operation brings comes on top, and what it takes away was there. -/
theorem Operation.stock_add (food : Nat) (op : Operation) :
    op.stock food + (if op = .removeFood ∧ 0 < food then 1 else 0) = food + op.amount := by
  cases op with
  | removeFood =>
    simp only [stock, amount, true_and]
    split <;> omega
  | _ => simp [stock, amount]

/-- What lies on a cell and what has been taken away is what lay there and what has been laid
down. -/
theorem food_performAll (hrock : cell.isRock = false) (hrange : InRange cell history) :
    (cell.performAll history).food.toNat + withdrawn cell.food.toNat history =
      cell.food.toNat + deposited history := by
  induction history generalizing cell with
  | nil => rfl
  | cons op rest ih =>
    obtain ⟨hfits, hrest⟩ := hrange
    -- The first operation keeps the balance, and the rest keeps it from there.
    have hstep := op.stock_add cell.food.toNat
    have hrun := ih (isRock_perform cell op ▸ hrock) hrest
    rw [toNat_food_perform hrock hfits] at hrun
    change (cell.performAll (op :: rest)).food.toNat + _ = _ at hrun
    rw [withdrawn, deposited]
    omega

/-! ### The contents of a cell -/

/-- Nothing lies or stands on the cell, and nobody could enter it. -/
structure Barred (cell : Cell) : Prop where
  /-- There is no food. -/
  food_eq : cell.food = 0
  /-- No marker is set. -/
  hasMarker_eq : ∀ color marker, cell.hasMarker color marker = false
  /-- Nor is there any that a look at all of them would find. -/
  hasAnyMarker_eq : ∀ color, cell.hasAnyMarker color = false
  /-- There is no ant. -/
  ant_eq : cell.ant = none
  /-- No ant could step onto the cell. -/
  isAvailable_eq : cell.isAvailable = false

/-- What a cell holds that was new, with some food and nothing else on it, before a history. -/
structure Recounts (cell : Cell) (food : UInt32) (history : List Operation) : Prop where
  /-- A marker is set if it exists and the last operation about it has set it. -/
  hasMarker_iff : ∀ color marker, cell.hasMarker color marker = true ↔
    marker < markerCount ∧
      lastAbout (.marker color marker) history = some (.addMarker color marker)
  /-- Any marker of a colony is set if one of those that exist is. -/
  hasAnyMarker_iff : ∀ color, cell.hasAnyMarker color = true ↔
    ∃ marker < markerCount, cell.hasMarker color marker = true
  /-- The food is what was there and what has been laid down, less what has been taken away, which
  is never more. -/
  food_add_withdrawn :
    cell.food.toNat + withdrawn food.toNat history = food.toNat + deposited history
  /-- An ant stands there if the last operation about ants has put it there. -/
  ant_eq_some_iff : ∀ id, cell.ant = some id ↔ lastAbout .ant history = some (.setAnt id)

variable {terrain : Terrain} {food : UInt32} {row col : Nat} {links : Links}

theorem food_new (hterrain : terrain ≠ .rock) : (new terrain food row col links).food = food :=
  if_neg hterrain

theorem marks_new (color : Color) : (new terrain food row col links).marks color = 0 := by
  cases color <;> rfl

theorem hasMarker_new (color : Color) (marker : Nat) :
    (new terrain food row col links).hasMarker color marker = false := by
  simp [hasMarker, marks_new]

theorem tidy_new : (new terrain food row col links).Tidy := by
  intro color i hi
  simp [bit, marks_new] at hi

/-- New rock is bare, whatever food it was to be made with. -/
theorem bare_new_rock : (new .rock food row col links).Bare := rfl

/-- New rock stays as it was made. -/
theorem performAll_new_rock (history : List Operation) :
    (new .rock food row col links).performAll history = new .rock food row col links :=
  bare_new_rock.performAll_eq rfl history

theorem barred_new_rock : (new .rock food row col links).Barred where
  food_eq := rfl
  hasMarker_eq := hasMarker_new
  hasAnyMarker_eq color := by simp [hasAnyMarker, marks_new]
  ant_eq := rfl
  isAvailable_eq := rfl

/-- What a new cell holds after a history. -/
theorem recounts_performAll_new (hterrain : terrain ≠ .rock)
    (hrange : InRange (new terrain food row col links) history) :
    ((new terrain food row col links).performAll history).Recounts food history := by
  have hrock : (new terrain food row col links).isRock = false := decide_eq_false hterrain
  refine ⟨fun color marker => ?_, fun color => ?_, ?_, fun id => ?_⟩
  · rw [hasMarker_performAll hrock, hasMarker_new]
    cases lastAbout (.marker color marker) history with
    | none => simp
    | some op => simp
  · exact (tidy_new.performAll history).hasAnyMarker_iff
  · have hfood := food_performAll hrock hrange
    rwa [food_new hterrain] at hfood
  · rw [ant_performAll hrock]
    cases hlast : lastAbout .ant history with
    | none => simp [new]
    | some op =>
      -- Only two operations are about ants.
      have hpart := part_of_lastAbout hlast
      cases op with
      | setAnt other => simp [Operation.ant?]
      | removeAnt => simp [Operation.ant?]
      | _ => cases hpart

/-- What a cell holds follows from its history. Rock stays as it was made, with nothing on it, and
cannot be entered. On any other cell markers, food and ant are what the history says, as long as no
deposit takes the food out of range. No operation changes what the cell is made of, where it lies
and what is linked to it, and none changes a part that it is not about. -/
theorem contents_of_history (terrain : Terrain) (food : UInt32) (row col : Nat) (links : Links)
    (history : List Operation) (hrange : InRange (new terrain food row col links) history) :
    let created := new terrain food row col links
    let cell := created.performAll history
    (terrain = .rock → cell = created ∧ cell.Barred) ∧
      (terrain ≠ .rock → cell.Recounts food history) ∧
      cell.ground = created.ground ∧ ∀ op, OnlyChanges op.part cell (cell.perform op) := by
  refine ⟨?_, fun hterrain => recounts_performAll_new hterrain hrange, ground_performAll _ _,
    onlyChanges_perform _⟩
  rintro rfl
  rw [performAll_new_rock]
  exact ⟨rfl, barred_new_rock⟩

/-- A clear cell that sees a bit of everything, and rock that is treated in the same way. -/
theorem contents_of_history_trodden :
    let links := Links.ofFn fun _ => none
    let history := [.removeFood, .removeFood, .addMarker .red 3, .setAnt 4, .depositFood 5,
      .addMarker .black 2, .removeMarker .black 2, .addMarker .black 9, .setAnt 7, .removeFood]
    let cell := (new .clear 1 2 6 links).performAll history
    InRange (new .clear 1 2 6 links) history ∧ InRange (new .rock 1 2 6 links) history ∧
      cell.hasMarker .red 3 = true ∧ ¬cell.hasAnyMarker .black = true ∧
      cell.food.toNat + 2 = 1 + 5 ∧ cell.ant = some 7 ∧ cell.terrain = .clear ∧
      ((new .rock 1 2 6 links).performAll history).Barred := by
  intro links history cell
  have hrange : InRange (new .clear 1 2 6 links) history := by decide
  have hrangeRock : InRange (new .rock 1 2 6 links) history := by decide
  obtain ⟨-, hrecounts, hground, -⟩ := contents_of_history .clear 1 2 6 links history hrange
  obtain ⟨hbarred, -⟩ := contents_of_history .rock 1 2 6 links history hrangeRock
  have h := hrecounts (by decide)
  refine ⟨hrange, hrangeRock, ?_, ?_, h.food_add_withdrawn, ?_, terrain_eq_of_ground hground,
    (hbarred rfl).2⟩
  · exact (h.hasMarker_iff .red 3).2 ⟨by decide, by decide⟩
  · rw [h.hasAnyMarker_iff]
    rintro ⟨marker, hmarker, hset⟩
    -- One marker was cleared again, the other does not exist.
    have hlast := ((h.hasMarker_iff .black marker).1 hset).2
    clear hset
    revert marker
    decide
  · exact (h.ant_eq_some_iff 7).2 (by decide)

end Cell

end Formicary
