import Formicary.Proofs.Game.Renaming

/-!
# The recorder only listens

A game takes the same course whether it is recorded or not: a recorder that is switched off stays as
it is, and the game with such a recorder in the place of another one is the same game otherwise
(`observe_run`).
-/

namespace Formicary

/-- A recorder that is switched off keeps nothing. -/
theorem Recorder.record_of_inactive {quiet : Recorder} (hquiet : quiet.active = false)
    (event : Event) : quiet.record event = quiet := by
  rw [record, hquiet, if_neg Bool.false_ne_true]

/-- A game is compared with one to which a given recorder listens. -/
def hearing (quiet : Recorder) : Comparison where
  toTransfer := .same
  Aside rng _ rng' recorder' := rng' = rng ∧ recorder' = quiet

variable {quiet : Recorder}

theorem entire_hearing (hquiet : quiet.active = false) : (hearing quiet).Entire where
  cells i := Set.mem_univ i
  ants id := Set.mem_univ id
  place_eq _ := rfl
  links_eq _ _ _ := rfl
  record := by
    rintro rng _ recorder _ ⟨rfl, rfl⟩ event
    exact ⟨rfl, Recorder.record_of_inactive hquiet _⟩
  draw := by
    rintro rng _ recorder _ ⟨rfl, rfl⟩ bound
    exact ⟨⟨rfl, rfl⟩, rfl⟩

namespace Game

variable {game game' : Game}

/-- A game is another one with the recorder in the place of its own if it is the same otherwise. -/
theorem eq_observe_iff (hquiet : quiet.active = false) :
    game' = game.observe quiet ↔ (hearing quiet).Same game game' := by
  have hcell : (hearing quiet).cell = id := funext Transfer.cell_same
  have hant : (hearing quiet).ant = id := rfl
  constructor
  · rintro rfl
    refine ⟨⟨fun _ => ?_, fun _ => ?_, rfl, rfl⟩, rfl, fun _ => rfl, rfl⟩
    · rw [hant, Option.map_id]
      rfl
    · rw [hcell, Option.map_id]
      rfl
  · intro h
    have heq := h.eq_of_same rfl (entire_hearing hquiet).cells (entire_hearing hquiet).ants
    obtain ⟨hrng, hrecorder⟩ := h.alike.aside
    rw [hrng, hrecorder] at heq
    exact heq

/-- A run that nobody records is the recorded one, but for the recorder. -/
theorem observe_run (hquiet : quiet.active = false) (game : Game) (n : Nat) :
    (game.observe quiet).run n = (game.run n).observe quiet :=
  (eq_observe_iff hquiet).2 (((eq_observe_iff hquiet).1 rfl).run (entire_hearing hquiet) n)

end Game

end Formicary
