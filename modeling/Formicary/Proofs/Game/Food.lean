import Formicary.Proofs.Board.Contents
import Formicary.Proofs.Game.Checked
import Formicary.Proofs.Game.Start
import Mathlib.Algebra.Order.BigOperators.Group.List
import Mathlib.Algebra.Order.Ring.Nat

/-!
# The balance of food

Food is picked up, carried and laid down, and every ant that dies leaves some that was not there
before. The books of a game balance if the food on the board and in the hands of the living is
what there was at the start, with `deathFood` more for every death (`Game.Stocked`). Every
elementary change keeps the balance (`Change.stocked`).

Since an ant dies only once, the food of a game never exceeds what there was at the start and
what all ants together can leave. If this is in range, then all amounts are, and no step of any
ant wraps around (`Stocked.stepAnt?_eq`).
-/

namespace Formicary

section Counting

variable {α : Type} {l : List α} {i : Nat} {a : α}

/-- A sum over a list changes by as much as the one part that changes. -/
theorem sum_map_modify (g : α → Nat) (f : α → α) (h : l[i]? = some a) :
    ((l.modify i f).map g).sum + g a = (l.map g).sum + g (f a) := by
  induction l generalizing i with
  | nil => simp at h
  | cons b l ih =>
    cases i with
    | zero =>
      obtain rfl : b = a := by simpa using h
      simp only [List.modify_zero_cons, List.map_cons, List.sum_cons]
      omega
    | succ i =>
      have := ih (by simpa using h)
      simp only [List.modify_succ_cons, List.map_cons, List.sum_cons]
      omega

/-- The count of a property changes by as much as the one element that changes. -/
theorem countP_modify {xs : Array α} (p : α → Bool) (f : α → α) (h : xs[i]? = some a) :
    (xs.modify i f).countP p + (p a).toNat = xs.countP p + (p (f a)).toNat := by
  have hcount (l : List α) : l.countP p = (l.map fun a => (p a).toNat).sum := by
    induction l with
    | nil => rfl
    | cons b l ih =>
      rw [List.countP_cons, ih, List.map_cons, List.sum_cons]
      cases p b <;> simp [Nat.add_comm]
  rw [← Array.countP_toList, ← Array.countP_toList, Array.toList_modify, hcount, hcount]
  exact sum_map_modify _ f (by rwa [Array.getElem?_toList])

/-- A change that keeps a property keeps its count. -/
theorem countP_modify_of_eq (xs : Array α) (i : Nat) {p : α → Bool} {f : α → α}
    (hf : ∀ a, p (f a) = p a) : (xs.modify i f).countP p = xs.countP p := by
  cases h : xs[i]? with
  | some a =>
    have hcount := countP_modify p f h
    rw [hf] at hcount
    omega
  | none => rw [array_modify_eq_self h]

end Counting

namespace Board

/-- The food on all cells of a board. -/
def totalFood (board : Board) : Nat := (board.cells.toList.map (·.food.toNat)).sum

variable {board : Board} {i : Nat} {cell : Cell}

/-- The food on a board changes by as much as the food on the one cell that changes. -/
theorem totalFood_modify (f : Cell → Cell) (hcell : board.cell? i = some cell) :
    (board.modify i f).totalFood + cell.food.toNat =
      board.totalFood + (f cell).food.toNat := by
  rw [totalFood, modify, Array.toList_modify]
  exact sum_map_modify (·.food.toNat) f (by rwa [Array.getElem?_toList])

/-- A change of a cell that leaves its food alone leaves all food alone. -/
theorem totalFood_modify_of_food_eq (board : Board) (i : Nat) {f : Cell → Cell}
    (hf : ∀ cell, (f cell).food = cell.food) : (board.modify i f).totalFood = board.totalFood := by
  cases hcell : board.cell? i with
  | some cell =>
    have hsum := totalFood_modify f hcell
    rw [hf] at hsum
    omega
  | none => rw [board.modify_eq_self hcell]

/-- No cell has more food than there is on the board. -/
theorem food_le_totalFood (hcell : board.cell? i = some cell) :
    cell.food.toNat ≤ board.totalFood := by
  have hsum := totalFood_modify (fun cell => { cell with food := 0 }) hcell
  simp only [UInt32.toNat_zero] at hsum
  omega

end Board

namespace Ant

/-- Whether an ant has food and lives. -/
def carries (ant : Ant) : Bool := ant.alive && ant.hasFood

/-- Whether an ant is dead. -/
def isDead (ant : Ant) : Bool := !ant.alive

end Ant

namespace Game

/-- The number of living ants that carry food. -/
def carriers (game : Game) : Nat := game.ants.countP Ant.carries

/-- The number of dead ants. -/
def dead (game : Game) : Nat := game.ants.countP Ant.isDead

/-- What lies on the board or is carried was there at the start or was left by the dead. -/
def Balanced (stock : Nat) (game : Game) : Prop :=
  game.board.totalFood + game.carriers = stock + deathFood * game.dead

/-- The food of a game balances against a stock at the start, and there is room for all the food
that there may ever be. -/
structure Stocked (stock : Nat) (game : Game) : Prop where
  /-- The board and the ants agree about who stands where. -/
  agrees : game.Agrees
  /-- The food of the game balances. -/
  balance : game.Balanced stock
  /-- If all ants die, all food is still in range. -/
  room : stock + deathFood * game.ants.size < UInt32.size

variable {game game' : Game} {id stock : Nat} {ant : Ant} {cell : Cell}

/-- A living ant is not among the dead. -/
theorem dead_lt_size (hant : game.ant? id = some ant) (halive : ant.alive = true) :
    game.dead < game.ants.size := by
  have hmem : ant ∈ game.ants := Array.mem_of_getElem? hant
  refine Nat.lt_of_le_of_ne Array.countP_le_size fun hall => ?_
  have hdead := Array.countP_eq_size.1 hall ant hmem
  simp [Ant.isDead, halive] at hdead

/-- What a living ant carries is counted. -/
theorem food_le_carriers (hant : game.ant? id = some ant) (halive : ant.alive = true) :
    ant.food ≤ game.carriers := by
  rw [Ant.food]
  split
  next hfood =>
    refine Array.one_le_countP_iff.2 ⟨ant, Array.mem_of_getElem? hant, ?_⟩
    simp [Ant.carries, halive, hfood]
  next => exact Nat.zero_le _

/-- There is room on an ant's cell for all that the ant can leave there. -/
theorem Stocked.food_add_lt (h : game.Stocked stock) (hant : game.ant? id = some ant)
    (halive : ant.alive = true) (hcell : game.board.cell? ant.pos = some cell) :
    cell.food.toNat + (deathFood + ant.food) < UInt32.size := by
  have hdead := dead_lt_size hant halive
  have hcarried := food_le_carriers hant halive
  have hfood := Board.food_le_totalFood hcell
  have hbalance : _ + _ = _ := h.balance
  have hroom := h.room
  have hleft : deathFood * game.dead + deathFood ≤ deathFood * game.ants.size := by
    rw [← Nat.mul_succ]
    exact Nat.mul_le_mul_left _ hdead
  omega

/-! ### Elementary changes -/

@[simp]
theorem carriers_modifyCell (game : Game) (i : Nat) (f : Cell → Cell) :
    (game.modifyCell i f).carriers = game.carriers := rfl

@[simp]
theorem dead_modifyCell (game : Game) (i : Nat) (f : Cell → Cell) :
    (game.modifyCell i f).dead = game.dead := rfl

@[simp]
theorem carriers_recordAt (game : Game) (i : Nat) (event : Cell → Event) :
    (game.recordAt i event).carriers = game.carriers := by
  rw [carriers, ants_recordAt, carriers]

@[simp]
theorem dead_recordAt (game : Game) (i : Nat) (event : Cell → Event) :
    (game.recordAt i event).dead = game.dead := by
  rw [dead, ants_recordAt, dead]

/-- The number of carriers changes by as much as the one ant that changes. -/
theorem carriers_modifyAnt (f : Ant → Ant) (hant : game.ant? id = some ant) :
    (game.modifyAnt id f).carriers + ant.carries.toNat =
      game.carriers + (f ant).carries.toNat :=
  countP_modify Ant.carries f hant

/-- The number of dead ants changes by as much as the one ant that changes. -/
theorem dead_modifyAnt (f : Ant → Ant) (hant : game.ant? id = some ant) :
    (game.modifyAnt id f).dead + ant.isDead.toNat = game.dead + (f ant).isDead.toNat :=
  countP_modify Ant.isDead f hant

/-- A change of an ant that neither gives nor takes food or life keeps the balance. -/
theorem Balanced.modifyAnt (h : game.Balanced stock) (id : Nat) {f : Ant → Ant}
    (hcarries : ∀ ant, (f ant).carries = ant.carries)
    (hdead : ∀ ant, (f ant).isDead = ant.isDead) : (game.modifyAnt id f).Balanced stock := by
  have hcarriers : (game.modifyAnt id f).carriers = game.carriers :=
    countP_modify_of_eq _ _ hcarries
  have hdead : (game.modifyAnt id f).dead = game.dead := countP_modify_of_eq _ _ hdead
  rw [Balanced, board_modifyAnt, hcarriers, hdead]
  exact h

/-- A change of a cell that leaves its food alone keeps the balance. -/
theorem Balanced.modifyCell (h : game.Balanced stock) (i : Nat) {f : Cell → Cell}
    (hf : ∀ cell, (f cell).food = cell.food) : (game.modifyCell i f).Balanced stock := by
  rw [Balanced, board_modifyCell, Board.totalFood_modify_of_food_eq _ _ hf]
  exact h

/-- Telling the recorder keeps the balance. -/
theorem Balanced.recordAt (h : game.Balanced stock) (i : Nat) (event : Cell → Event) :
    (game.recordAt i event).Balanced stock := by
  rw [Balanced, board_recordAt, carriers_recordAt, dead_recordAt]
  exact h

/-- Whoever takes up food carries it from the cell. -/
theorem takeFood_balance (hant : game.ant? id = some ant) (hcan : game.canPickUp ant = true)
    (halive : ant.alive = true) :
    (game.takeFood id ant).board.totalFood + (game.takeFood id ant).carriers =
      game.board.totalFood + game.carriers := by
  obtain ⟨hempty, hany⟩ := Bool.and_eq_true_iff.1 hcan
  obtain ⟨cell, hcell, hfood⟩ := (Option.any_eq_true ..).1 hany
  have hboard := Board.totalFood_modify Cell.removeFood hcell
  have hless := Cell.toNat_food_removeFood hfood
  have hcarriers := carriers_modifyAnt ({ · with hasFood := true }) hant
  have hbefore : ant.carries.toNat = 0 := by
    simp only [Ant.carries, (Bool.not_eq_true' _).mp hempty, Bool.and_false, Bool.toNat_false]
  have hafter : ({ ant with hasFood := true } : Ant).carries.toNat = 1 := by
    rw [Ant.carries, halive, Bool.and_self, Bool.toNat_true]
  have hants : (game.takeFood id ant).carriers =
      (game.modifyAnt id ({ · with hasFood := true })).carriers := carriers_recordAt ..
  rw [takeFood, board_recordAt, board_modifyAnt, board_modifyCell, ← takeFood, hants]
  omega

/-- Whoever lays down food had carried it to the cell. -/
theorem layFood_balance (hant : game.ant? id = some ant) (hfood : ant.hasFood = true)
    (halive : ant.alive = true) (hcell : game.board.cell? ant.pos = some cell)
    (hrock : cell.isRock = false) (hroom : cell.food.toNat + 1 < UInt32.size) :
    (game.layFood id ant).board.totalFood + (game.layFood id ant).carriers =
      game.board.totalFood + game.carriers := by
  have hboard := Board.totalFood_modify (·.depositFood 1) hcell
  have hmore : (cell.depositFood 1).food.toNat = cell.food.toNat + 1 :=
    Cell.toNat_food_depositFood hrock hroom
  have hcarriers := carriers_modifyAnt ({ · with hasFood := false }) hant
  have hbefore : ant.carries.toNat = 1 := by
    rw [Ant.carries, halive, hfood, Bool.and_self, Bool.toNat_true]
  have hafter : ({ ant with hasFood := false } : Ant).carries.toNat = 0 := by
    rw [Ant.carries, Bool.and_false, Bool.toNat_false]
  have hants : (game.layFood id ant).carriers =
      (game.modifyAnt id ({ · with hasFood := false })).carriers := carriers_recordAt ..
  rw [layFood, board_recordAt, board_modifyAnt, board_modifyCell, ← layFood, hants]
  omega

/-- A dead ant leaves what it carried and what every dead ant leaves. -/
theorem kill_balance (hant : game.ant? id = some ant) (halive : ant.alive = true)
    (hcell : game.board.cell? ant.pos = some cell) (hrock : cell.isRock = false)
    (hroom : cell.food.toNat + (deathFood + ant.food) < UInt32.size) :
    (game.kill id).board.totalFood + (game.kill id).carriers =
      game.board.totalFood + game.carriers + deathFood := by
  rw [← toNat_deathAmount] at hroom
  have hboard := Board.totalFood_modify
    (fun cell => (cell.depositFood (deathAmount ant)).removeAnt) hcell
  have hmore := Cell.toNat_food_depositFood hrock hroom
  rw [toNat_deathAmount] at hmore
  rw [Cell.food_removeAnt, hmore] at hboard
  have hcarriers := carriers_modifyAnt Ant.die hant
  -- The unit that the ant carried goes over to its cell.
  have hbefore : ant.carries.toNat = ant.food := by
    rw [Ant.carries, halive, Ant.food]
    cases ant.hasFood <;> rfl
  have hafter : ant.die.carries.toNat = 0 := rfl
  have hants : (game.kill id).carriers = (game.modifyAnt id Ant.die).carriers := by
    simp only [kill, hant, carriers_recordAt]
    rfl
  have hcells : (game.kill id).board =
      game.board.modify ant.pos fun cell => (cell.depositFood (deathAmount ant)).removeAnt := by
    simp only [kill, hant, board_recordAt]
    rfl
  rw [hants, hcells]
  omega

/-- Who is killed is dead, and nobody else dies with it. -/
theorem dead_kill (hant : game.ant? id = some ant) (halive : ant.alive = true) :
    (game.kill id).dead = game.dead + 1 := by
  have hdead := dead_modifyAnt Ant.die hant
  have hbefore : ant.isDead.toNat = 0 := by rw [Ant.isDead, halive, Bool.not_true, Bool.toNat_false]
  have hafter : ant.die.isDead.toNat = 1 := rfl
  have hants : (game.kill id).dead = (game.modifyAnt id Ant.die).dead := by
    simp only [kill, hant, dead_recordAt]
    rfl
  omega

/-- Every elementary change keeps the balance of food. -/
theorem Change.stocked (hchange : Change game game') (h : game.Stocked stock) :
    game'.Stocked stock := by
  refine ⟨hchange.agrees h.agrees, ?_, by rw [hchange.size_ants]; exact h.room⟩
  have hbalance : _ + _ = _ := h.balance
  -- Food is touched when it is taken, when it is laid down, and when an ant dies.
  cases hchange with
  | enter id state => exact h.balance.modifyAnt id (fun _ => rfl) fun _ => rfl
  | rest => exact h.balance.modifyAnt _ (fun _ => rfl) fun _ => rfl
  | turn id side => exact h.balance.modifyAnt id (fun _ => rfl) fun _ => rfl
  | draw bound => exact h.balance
  | placeMark hant halive marker => exact (h.balance.modifyCell _ (by simp)).recordAt ..
  | clearMark hant halive marker => exact (h.balance.modifyCell _ (by simp)).recordAt ..
  | @takeFood id ant hant halive hcan =>
    have hfood := takeFood_balance hant hcan halive
    have hdead : (game.takeFood id ant).dead = game.dead := by
      rw [Game.takeFood, dead_recordAt]
      exact countP_modify_of_eq _ _ fun _ => rfl
    rw [Balanced, hfood, hdead]
    exact hbalance
  | @layFood id ant hant halive hcarried =>
    obtain ⟨cell, hcell, hrock, -⟩ := h.agrees.cell_of_alive hant halive
    have hroom := h.food_add_lt hant halive hcell
    have hone : ant.food = 1 := by rw [Ant.food, if_pos hcarried]
    have hfood := layFood_balance hant hcarried halive hcell hrock (by omega)
    have hdead : (game.layFood id ant).dead = game.dead := by
      rw [Game.layFood, dead_recordAt]
      exact countP_modify_of_eq _ _ fun _ => rfl
    rw [Balanced, hfood, hdead]
    exact hbalance
  | @relocate id dest ant hant halive hopen =>
    have hleft := h.balance.modifyCell ant.pos Cell.food_removeAnt
    have hentered := hleft.modifyCell dest (Cell.food_setAnt · id)
    exact hentered.modifyAnt id (fun _ => rfl) fun _ => rfl
  | kill hsurrounded =>
    obtain ⟨ant, hant, halive, -⟩ := isSurrounded_eq_true_iff.1 hsurrounded
    obtain ⟨cell, hcell, hrock, -⟩ := h.agrees.cell_of_alive hant halive
    have hfood := kill_balance hant halive hcell hrock (h.food_add_lt hant halive hcell)
    rw [Balanced, hfood, hbalance, dead_kill hant halive, Nat.mul_succ, Nat.add_assoc]

/-! ### Nothing wraps around -/

/-- A check for death that kills is a checked one. -/
theorem Stocked.checkDeath?_eq (h : game.Stocked stock) (id : Nat) :
    game.checkDeath? id = some (game.checkDeath id) := by
  rw [checkDeath?, checkDeath]
  split
  next hsurrounded =>
    obtain ⟨ant, hant, halive, -⟩ := isSurrounded_eq_true_iff.1 hsurrounded
    exact kill?_eq hant fun cell hcell => h.food_add_lt hant halive hcell
  next => rfl

/-- No check for death wraps around, whatever was killed before. -/
theorem Stocked.settle?_eq (h : game.Stocked stock) (ids : List Nat) :
    game.settle? ids = some (game.settle ids) := by
  refine foldlM_eq_some (P := Stocked stock) (fun h id _ => ⟨h.checkDeath?_eq id, ?_⟩) h
  rw [checkDeath]
  split
  next hsurrounded => exact (Change.kill hsurrounded).stocked h
  next => exact h

/-- No instruction wraps around. -/
theorem Stocked.execute?_eq (h : game.Stocked stock) (hant : game.ant? id = some ant)
    (halive : ant.alive = true) (instruction : Instruction) :
    game.execute? id ant instruction = some (game.execute id ant instruction) := by
  -- Food is counted down where there is some, and counted up where there is room for it.
  cases instruction with
  | pickUp onSuccess onFail =>
    rw [execute?, execute]
    split
    · rw [takeFood?_eq, Option.map_some]
    · rfl
  | drop next =>
    rw [execute?, execute]
    split
    next hfood =>
      have hone : ant.food = 1 := by rw [Ant.food, if_pos hfood]
      have hlaid : game.layFood? id ant = some (game.layFood id ant) := by
        refine layFood?_eq fun cell hcell => ?_
        have hroom := h.food_add_lt hant halive hcell
        omega
      rw [hlaid, Option.map_some]
    next => rfl
  | move onSuccess onFail =>
    cases hopen : game.openAhead? ant with
    | some dest =>
      have hmoved := (Change.relocate hant halive hopen).stocked h
      simp only [execute?, execute, hopen, hmoved.settle?_eq, Option.map_some, resolveCombat]
    | none => simp only [execute?, execute, hopen]
  | sense | mark | unmark | turn | flip => rfl

/-- No action of an ant wraps around. -/
theorem Stocked.act?_eq (h : game.Stocked stock) (hant : game.ant? id = some ant)
    (halive : ant.alive = true) : game.act? id ant = some (game.act id ant) := by
  cases hget : (game.brain ant.color).get? ant.state with
  | some instruction =>
    simp only [act?, act, hget, h.execute?_eq hant halive, Option.bind_eq_bind, Option.bind_some]
    rfl
  | none => simp only [act?, act, hget]

/-- No step of an ant wraps around. -/
theorem Stocked.stepAnt?_eq (h : game.Stocked stock) (id : Nat) :
    game.stepAnt? id = some (game.stepAnt id) := by
  cases hant : game.ant? id with
  | none => simp only [stepAnt?, stepAnt, hant]
  | some ant =>
    simp only [stepAnt?, stepAnt, hant]
    by_cases halive : ant.alive = true
    · simp only [halive, Bool.not_true, Bool.false_eq_true, ↓reduceIte]
      split
      · rfl
      · exact h.act?_eq hant halive
    · simp only [halive, Bool.not_false, ↓reduceIte]

end Game

namespace Board

/-- The food on the cell with a given number. -/
def foodAt (board : Board) (i : Nat) : Nat :=
  match board.cell? i with
  | some cell => cell.food.toNat
  | none => 0

/-- The food on a board, cell by cell. -/
theorem totalFood_eq_sum_foodAt (board : Board) :
    board.totalFood = ((List.range board.cells.size).map board.foodAt).sum := by
  have hcells : board.cells.toList.map (·.food.toNat) =
      (List.range board.cells.size).map board.foodAt := by
    refine List.ext_getElem (by simp) fun i hi hi' => ?_
    simp only [List.length_map, Array.length_toList] at hi
    simp [foodAt, cell?, hi]
  rw [totalFood, hcells]

end Board

namespace Game

/-- The food on a hill is summed up without wrapping around if there is room for all food of the
board. -/
theorem hillFood?_eq (game : Game) (color : Color) (hroom : game.board.totalFood < UInt32.size) :
    game.hillFood? color = some (game.hillFood color) := by
  have hsum (cells : List Nat) (sum : UInt32)
      (hlt : sum.toNat + (cells.map game.board.foodAt).sum < UInt32.size) :
      cells.foldlM (fun sum i => match game.board.cell? i with
          | some cell => checkedAdd? sum cell.food
          | none => some sum) sum =
        some (cells.foldl (fun sum i => match game.board.cell? i with
          | some cell => sum + cell.food
          | none => sum) sum) := by
    -- What has been summed up and what is still to come are in range together.
    induction cells generalizing sum with
    | nil => rfl
    | cons i cells ih =>
      rw [List.map_cons, List.sum_cons] at hlt
      rw [List.foldlM_cons, List.foldl_cons]
      cases hcell : game.board.cell? i with
      | some cell =>
        simp only [Board.foodAt, hcell] at hlt
        have hfits : sum.toNat + cell.food.toNat < UInt32.size := by omega
        have hnext : (sum + cell.food).toNat = sum.toNat + cell.food.toNat :=
          (UInt32.toNat_add ..).trans (Nat.mod_eq_of_lt hfits)
        simp only [checkedAdd?, if_pos hfits, Option.bind_eq_bind, Option.bind_some]
        refine ih _ ?_
        rw [hnext, Nat.add_assoc]
        exact hlt
      | none =>
        simp only [Option.bind_eq_bind, Option.bind_some]
        exact ih sum (by omega)
  have hhill : (game.board.hillCells color).Sublist (List.range game.board.cells.size) :=
    List.filter_sublist
  have hle := (hhill.map game.board.foodAt).sum_le_sum fun _ _ => Nat.zero_le _
  rw [← Board.totalFood_eq_sum_foodAt] at hle
  refine hsum (game.board.hillCells color) 0 ?_
  rw [UInt32.toNat_zero, Nat.zero_add]
  exact Nat.lt_of_le_of_lt hle hroom

/-! ### Games -/

variable {first : Game} {board : Board} {redBrain blackBrain : Brain} {rng : Rng}

/-- Hatching neither adds nor removes food. -/
theorem totalFood_hatch (board : Board) (ants : Array Ant) (i : Nat) :
    (hatch (board, ants) i).1.totalFood = board.totalFood := by
  rw [hatch_eq]
  split
  · exact Board.totalFood_modify_of_food_eq _ _ (Cell.food_setAnt · _)
  · rfl

theorem totalFood_foldl_hatch (cells : List Nat) (board : Board) (ants : Array Ant) :
    (cells.foldl hatch (board, ants)).1.totalFood = board.totalFood := by
  induction cells generalizing board ants with
  | nil => rfl
  | cons i cells ih => exact (ih _ _).trans (totalFood_hatch board ants i)

/-- The ants of a new game live and carry nothing. -/
theorem newborn_start {ant : Ant} (hant : ant ∈ (start redBrain blackBrain board rng).ants) :
    ant.isDead = false ∧ ant.carries = false := by
  rw [← Array.mem_toList_iff, ants_start] at hant
  obtain ⟨_, -, rfl⟩ := List.mem_map.1 hant
  exact ⟨rfl, rfl⟩

/-- At the start the food of a game is what there is on the board. -/
theorem stocked_start (hvacant : board.Vacant)
    (hroom : board.totalFood + deathFood * (start redBrain blackBrain board rng).ants.size <
      UInt32.size) :
    (start redBrain blackBrain board rng).Stocked board.totalFood := by
  refine ⟨agrees_start hvacant, ?_, hroom⟩
  have hcarriers : (start redBrain blackBrain board rng).carriers = 0 :=
    Array.countP_eq_zero.2 fun ant hant => by simp [(newborn_start hant).2]
  have hdead : (start redBrain blackBrain board rng).dead = 0 :=
    Array.countP_eq_zero.2 fun ant hant => by simp [(newborn_start hant).1]
  have hfood : (start redBrain blackBrain board rng).board.totalFood = board.totalFood :=
    totalFood_foldl_hatch ..
  rw [Balanced, hcarriers, hdead, hfood, Nat.mul_zero]

/-- The books of a game that balance at the start balance in every reachable state. -/
theorem Reachable.stocked (h : Reachable first game) (hfirst : first.Stocked stock) :
    game.Stocked stock :=
  h.keep (P := Stocked stock) hfirst (fun hchange ih => hchange.stocked ih)
    (fun _ ih => ⟨ih.agrees, ih.balance, ih.room⟩) fun _ ih => ⟨ih.agrees, ih.balance, ih.room⟩

/-- Food is neither lost nor made, but for what the dead leave: in every reachable state what lies
on the board and what living ants carry is what there was at the start and `deathFood` more for
every dead ant. No step of any ant and no sum of the score wraps around, for with checked
arithmetic they all come to the same result. -/
theorem food_balance_of_reachable (hvacant : board.Vacant)
    (hroom : board.totalFood + deathFood * (start redBrain blackBrain board rng).ants.size <
      UInt32.size)
    (h : Reachable (start redBrain blackBrain board rng) game) :
    game.board.totalFood + game.carriers = board.totalFood + deathFood * game.dead ∧
      (∀ id, game.stepAnt? id = some (game.stepAnt id)) ∧
      ∀ color, game.hillFood? color = some (game.hillFood color) ∧
        game.deaths color < UInt32.size := by
  have hstocked := h.stocked (stocked_start hvacant hroom)
  have hbalance : _ + _ = _ := hstocked.balance
  have hlast := hstocked.room
  have hdead : game.dead ≤ game.ants.size := Array.countP_le_size
  have hall : deathFood * game.dead ≤ deathFood * game.ants.size := Nat.mul_le_mul_left _ hdead
  refine ⟨hbalance, hstocked.stepAnt?_eq, fun color => ⟨?_, ?_⟩⟩
  · exact hillFood?_eq game color (by omega)
  · have hdeaths : game.deaths color ≤ game.ants.size := Array.countP_le_size
    have hsize : game.ants.size ≤ deathFood * game.ants.size :=
      Nat.le_mul_of_pos_left _ (by decide)
    omega

/-- The siege, which begins with two units of food and six ants, stays in balance. -/
theorem food_balance_siege :
    siege.tick.board.totalFood + siege.tick.carriers = 2 + deathFood * siege.tick.dead ∧
      siege.tick.dead = 1 ∧
      (∀ id, siege.tick.stepAnt? id = some (siege.tick.stepAnt id)) ∧
      ∀ color, siege.tick.hillFood? color = some (siege.tick.hillFood color) ∧
        siege.tick.deaths color < UInt32.size := by
  have hroom : (Board.ofMap siegeWorld).totalFood + deathFood * siege.ants.size < UInt32.size := by
    decide +kernel
  have hreached : Reachable siege siege.tick := Reachable.refl.tick
  obtain ⟨hbalance, hsteps, hscore⟩ :=
    food_balance_of_reachable (Board.vacant_ofMap siegeWorld) hroom hreached
  have hstock : (Board.ofMap siegeWorld).totalFood = 2 := by decide +kernel
  have hdead : siege.tick.dead = 1 := by decide +kernel
  rw [hstock] at hbalance
  exact ⟨hbalance, hdead, hsteps, hscore⟩

end Game

end Formicary
