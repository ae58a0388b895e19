import Formicary.Proofs.Game.Comparison
import Formicary.Proofs.Game.Constancy

/-!
# The same game under other names

If everything is looked at, and cells keep their numbers and their links, then nothing can come
between two games that are the same but for the names of the colonies and for what the comparison
allows of generators and recorders: they stay the same in every step (`Same.stepAnt`), reachable or
not, and in every run (`Same.run`).
-/

namespace Formicary

namespace Comparison

/-- Everything is looked at, and cells keep their numbers and links. -/
structure Entire (c : Comparison) : Prop where
  /-- All cells are looked at. -/
  cells : ∀ i, i ∈ c.cells
  /-- All ants are looked at. -/
  ants : ∀ id, id ∈ c.ants
  /-- Cells keep their numbers. -/
  place_eq : ∀ i, c.place i = i
  /-- Cells keep their links. -/
  links_eq : ∀ row col links, c.links row col links = links
  /-- Both recorders may be handed the same event. -/
  record : ∀ {rng rng' : Rng} {recorder recorder' : Recorder},
    c.Aside rng recorder rng' recorder' →
      ∀ event, c.Aside rng (recorder.record event) rng' (recorder'.record (c.event event))
  /-- Both generators draw the same. -/
  draw : ∀ {rng rng' : Rng} {recorder recorder' : Recorder},
    c.Aside rng recorder rng' recorder' → ∀ bound,
      c.Aside (rng.below bound).2 recorder (rng'.below bound).2 recorder' ∧
        (rng'.below bound).1 = (rng.below bound).1

/-- Two games are the same but for names. -/
structure Same (c : Comparison) (game game' : Game) : Prop where
  /-- What is looked at is the same. -/
  alike : c.Alike game game'
  /-- The boards have the same frame. -/
  toFrame_eq : game'.board.toFrame = game.board.toFrame
  /-- The colonies have the same brains. -/
  brain_eq : ∀ color, game'.brain (c.color color) = game.brain color
  /-- The games have lasted equally long. -/
  ticks_eq : game'.ticks = game.ticks

variable {c : Comparison} {Related : Game → Game → Prop} {game game' : Game}

/-- Games in which the colonies have the same brains stay alike. -/
theorem Entire.lasting (hc : c.Entire) :
    c.Lasting fun game game' => ∀ color, game'.brain (c.color color) = game.brain color where
  left hbrain hchange color := by rw [hchange.brain, hbrain]
  right hbrain hchange color := by rw [hchange.brain, hbrain]
  place_injOn := by
    intro i _ j _ hij
    rwa [hc.place_eq, hc.place_eq] at hij
  pos_mem _ _ _ _ := hc.cells _
  occupant_mem _ _ _ _ := hc.ants _
  brain_eq hbrain _ _ := hbrain _
  neighbor _ halike _ _ _ d :=
    halike.meets hc.place_eq hc.links_eq (hc.cells _) fun _ _ => hc.cells _
  record := hc.record
  draw {game game' id bound onZero otherwise} _ halike _ _ := by
    obtain ⟨haside, hsame⟩ := hc.draw halike.aside bound
    exact ⟨haside, by rw [hsame]⟩

/-- If everything that keeps games alike lasts and all ants are looked at, the games stay the same
whichever ant steps. -/
theorem Lasting.same_stepAnt (hc : c.Lasting Related) (hants : ∀ id, id ∈ c.ants)
    (hrelated : Related game game') (h : c.Same game game') (id : Nat) :
    c.Same (game.stepAnt id) (game'.stepAnt id) := by
  have hleft : Game.Reachable game (game.stepAnt id) := .stepAnt id .refl
  have hright : Game.Reachable game' (game'.stepAnt id) := .stepAnt id .refl
  exact {
    alike := hc.stepAnt hrelated h.alike (hants id)
    toFrame_eq := by
      rw [Board.toFrame_eq_of_ground hright.ground, h.toFrame_eq,
        Board.toFrame_eq_of_ground hleft.ground]
    brain_eq := fun color => by rw [hright.brain, h.brain_eq, hleft.brain]
    ticks_eq := by rw [Game.ticks_stepAnt, Game.ticks_stepAnt, h.ticks_eq] }

/-- After any number of ticks the games are still the same. -/
theorem Lasting.same_run (hc : c.Lasting Related) (hants : ∀ id, id ∈ c.ants)
    (hcount : ∀ {game game' : Game}, Related game game' →
      Related { game with ticks := game.ticks + 1 } { game' with ticks := game'.ticks + 1 })
    (hrelated : Related game game') (h : c.Same game game') (n : Nat) :
    c.Same (game.run n) (game'.run n) := by
  refine (Game.run_related (R := fun game game' => Related game game' ∧ c.Same game game')
    ?_ ?_ ?_ ⟨hrelated, h⟩ n).2
  · rintro game game' ⟨-, h⟩
    exact h.alike.size_ants hants
  · rintro game game' id ⟨hrelated, h⟩
    exact ⟨hc.related_stepAnt hrelated id, hc.same_stepAnt hants hrelated h id⟩
  · rintro game game' ⟨hrelated, h⟩
    -- All that a tick does besides the steps is to count itself.
    exact ⟨hcount hrelated, h.alike.count, h.toFrame_eq, h.brain_eq,
      congrArg (· + 1) h.ticks_eq⟩

/-- Whichever ant steps, the games stay the same. -/
theorem Same.stepAnt (h : c.Same game game') (hc : c.Entire) (id : Nat) :
    c.Same (game.stepAnt id) (game'.stepAnt id) :=
  hc.lasting.same_stepAnt hc.ants h.brain_eq h id

/-- After any number of ticks the games are still the same. -/
theorem Same.run (h : c.Same game game') (hc : c.Entire) (n : Nat) :
    c.Same (game.run n) (game'.run n) :=
  hc.lasting.same_run hc.ants (fun hbrain => hbrain) h.brain_eq h n

/-- The board is the same but for names. -/
theorem Same.board_eq (h : c.Same game game') (hcells : ∀ i, i ∈ c.cells)
    (hplace : ∀ i, c.place i = i) :
    game'.board = ⟨game.board.toFrame, game.board.cells.map c.cell⟩ := by
  have hcells : game'.board.cells = game.board.cells.map c.cell := by
    refine Array.ext_getElem? fun i => ?_
    have hcell := h.alike.cell?_eq (hcells i)
    rw [hplace] at hcell
    rw [Array.getElem?_map]
    exact hcell
  rw [← hcells, ← h.toFrame_eq]

/-- Games that are the same and have no other names differ in their generators and recorders at
most. -/
theorem Same.eq_of_same (h : c.Same game game') (hsame : c.toTransfer = .same)
    (hcells : ∀ i, i ∈ c.cells) (hants : ∀ id, id ∈ c.ants) :
    game' = { game with rng := game'.rng, recorder := game'.recorder } := by
  -- Without other names nothing is translated.
  have hcell : c.cell = id := by
    rw [hsame]
    exact funext Transfer.cell_same
  have hant : c.ant = id := by
    rw [hsame]
    rfl
  have hcolor (color : Color) : game'.brain color = game.brain color := by
    have hbrain := h.brain_eq color
    rw [hsame] at hbrain
    exact hbrain
  have hboard := h.board_eq hcells fun i => by rw [hsame]; rfl
  have hants' := h.alike.ants_eq hants
  rw [hcell, Array.map_id] at hboard
  rw [hant, Array.map_id] at hants'
  have hred : game'.redBrain = game.redBrain := hcolor .red
  have hblack : game'.blackBrain = game.blackBrain := hcolor .black
  have hticks := h.ticks_eq
  cases game'
  simp_all only

end Comparison

end Formicary
