import Formicary.Proofs.Game.Change
import Mathlib.Data.Set.Basic

/-!
# What a step leaves alone

A game spares some ants and cells if they are afterwards what they were (`Game.Spares`). A step of
an ant touches the ant itself, its cell, and what a move touches. Whoever has nothing to do with
these is spared (`spares_stepAnt`). A move on which nobody dies touches the ant, the cell that it
leaves and the cell that it enters (`spares_move_of_peace`).
-/

namespace Formicary

namespace Game

variable {game game' after : Game} {ants cells : Set Nat} {id i : Nat} {ant : Ant}

/-- The given ants and cells are afterwards what they were. -/
structure Spares (ants cells : Set Nat) (game game' : Game) : Prop where
  /-- The records of the ants are the same. -/
  ant?_eq : ∀ {id : Nat}, id ∈ ants → game'.ant? id = game.ant? id
  /-- What lies and stands on the cells is the same. -/
  cell?_eq : ∀ {i : Nat}, i ∈ cells → game'.board.cell? i = game.board.cell? i

theorem Spares.refl (game : Game) : Spares ants cells game game := ⟨fun _ => rfl, fun _ => rfl⟩

theorem Spares.trans (h : Spares ants cells game game') (h' : Spares ants cells game' after) :
    Spares ants cells game after :=
  ⟨fun hid => (h'.ant?_eq hid).trans (h.ant?_eq hid),
    fun hi => (h'.cell?_eq hi).trans (h.cell?_eq hi)⟩

theorem Spares.symm (h : Spares ants cells game game') : Spares ants cells game' game :=
  ⟨fun hid => (h.ant?_eq hid).symm, fun hi => (h.cell?_eq hi).symm⟩

/-- Of what is spared a part is spared. -/
theorem Spares.mono {ants' cells' : Set Nat} (h : Spares ants cells game game')
    (hants : ants' ⊆ ants) (hcells : cells' ⊆ cells) : Spares ants' cells' game game' :=
  ⟨fun hid => h.ant?_eq (hants hid), fun hi => h.cell?_eq (hcells hi)⟩

theorem Spares.mono_compl {ants' cells' : Set Nat} (h : Spares antsᶜ cellsᶜ game game')
    (hants : ants ⊆ ants') (hcells : cells ⊆ cells') : Spares ants'ᶜ cells'ᶜ game game' :=
  h.mono (fun _ hid hmem => hid (hants hmem)) fun _ hi hmem => hi (hcells hmem)

theorem Spares.union {ants' cells' : Set Nat} (h : Spares ants cells game game')
    (h' : Spares ants' cells' game game') : Spares (ants ∪ ants') (cells ∪ cells') game game' :=
  ⟨fun hid => hid.elim h.ant?_eq h'.ant?_eq, fun hi => hi.elim h.cell?_eq h'.cell?_eq⟩

theorem spares_modifyAnt (game : Game) (hid : id ∉ ants) (f : Ant → Ant) :
    Spares ants cells game (game.modifyAnt id f) where
  ant?_eq hother := by
    rw [ant?_modifyAnt, if_neg]
    rintro rfl
    exact hid hother
  cell?_eq _ := rfl

theorem spares_modifyCell (game : Game) (hi : i ∉ cells) (f : Cell → Cell) :
    Spares ants cells game (game.modifyCell i f) where
  ant?_eq _ := rfl
  cell?_eq hj := by
    rw [board_modifyCell, Board.cell?_modify, if_neg]
    rintro rfl
    exact hi hj

theorem spares_recordAt (game : Game) (i : Nat) (event : Cell → Event) :
    Spares ants cells game (game.recordAt i event) where
  ant?_eq _ := ant?_recordAt ..
  cell?_eq _ := by rw [board_recordAt]

/-- Moving an ant touches the ant, the cell that it leaves and the cell that it enters. -/
theorem spares_relocate (game : Game) (hid : id ∉ ants) (hpos : ant.pos ∉ cells) {dest : Nat}
    (hdest : dest ∉ cells) : Spares ants cells game (game.relocate id ant dest) :=
  ((spares_modifyCell game hpos _).trans (spares_modifyCell _ hdest _)).trans
    (spares_modifyAnt _ hid _)

/-- Where nobody is surrounded nobody dies. -/
theorem settle_eq_self (h : ∀ id, game.isSurrounded id = false) (ids : List Nat) :
    game.settle ids = game := by
  induction ids with
  | nil => rfl
  | cons id ids ih =>
    rw [settle, List.foldl_cons, checkDeath, h id]
    exact ih

/-- A move after which nobody is surrounded touches the ant and its two cells. -/
theorem spares_move_of_peace (hid : id ∉ ants) (hpos : ant.pos ∉ cells) {dest : Nat}
    (hdest : dest ∉ cells)
    (hpeace : ∀ other, (game.relocate id ant dest).isSurrounded other = false) :
    Spares ants cells game ((game.relocate id ant dest).resolveCombat id) := by
  rw [resolveCombat, settle_eq_self hpeace]
  exact spares_relocate game hid hpos hdest

section Step

variable (hid : id ∉ ants) (hpos : ant.pos ∉ cells)
  (hmove : ∀ dest, game.openAhead? ant = some dest →
    Spares ants cells game ((game.relocate id ant dest).resolveCombat id))

include hid hpos hmove

/-- An instruction touches the ant, its cell, and what a move touches. -/
theorem Effect.spares {instruction : Instruction} (h : Effect game id ant instruction game') :
    Spares ants cells game game' := by
  have hchanged (f : Cell → Cell) (g : Ant → Ant) (event : Cell → Event) : Spares ants cells game
      (((game.modifyCell ant.pos f).modifyAnt id g).recordAt ant.pos event) :=
    ((spares_modifyCell game hpos f).trans (spares_modifyAnt _ hid g)).trans
      (spares_recordAt _ _ event)
  cases h with
  | nothing => exact .refl game
  | placeMark | clearMark => exact (spares_modifyCell game hpos _).trans (spares_recordAt ..)
  | takeFood | layFood => exact hchanged ..
  | turn => exact spares_modifyAnt game hid _
  | move _ _ hopen => exact hmove _ hopen
  | draw => exact ⟨fun _ => rfl, fun _ => rfl⟩

/-- A step touches the ant, its cell, and what a move touches. -/
theorem Step.spares (h : Step game id game') (hant : game.ant? id = some ant) :
    Spares ants cells game game' := by
  cases h with
  | idle => exact .refl game
  | rest => exact spares_modifyAnt game hid _
  | act state hant' _ _ heffect =>
    obtain rfl := Option.some.inj (hant.symm.trans hant')
    exact (heffect.spares hid hpos hmove).trans (spares_modifyAnt _ hid _)

/-- A step touches the ant, its cell, and what a move touches. -/
theorem spares_stepAnt (hant : game.ant? id = some ant) :
    Spares ants cells game (game.stepAnt id) :=
  (step_stepAnt game id).spares hid hpos hmove hant

end Step

end Game

end Formicary
