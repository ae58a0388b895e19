import Formicary.Proofs.Game.Change

/-!
# Where an ant is seen

Of an ant the others see its colony, its cell, and whether it lives: its station. Little can happen
to it. An elementary change moves an ant to the open cell ahead, kills it, or leaves its station
alone (`Change.station_cases`). A step either moves its ant, and then settles who dies of the move,
or it changes no station at all (`Step.station_cases`).
-/

namespace Formicary

/-- What others can see of an ant: its colony, its cell, and whether it lives. -/
def Ant.station (ant : Ant) : Color × Nat × Bool := (ant.color, ant.pos, ant.alive)

namespace Game

variable {game game' : Game} {id dest : Nat} {ant : Ant}

/-- The station of the ant with a given number. -/
def station? (game : Game) (id : Nat) : Option (Color × Nat × Bool) :=
  (game.ant? id).map Ant.station

@[simp]
theorem station?_recordAt (game : Game) (i : Nat) (event : Cell → Event) :
    (game.recordAt i event).station? id = game.station? id := by
  rw [station?, ant?_recordAt, station?]

/-- An ant that is changed inwardly keeps its station. -/
theorem station?_modifyAnt (game : Game) (other : Nat) {f : Ant → Ant}
    (hf : ∀ ant, (f ant).station = ant.station) :
    (game.modifyAnt other f).station? id = game.station? id := by
  rw [station?, ant?_modifyAnt, station?]
  split
  · rw [Option.map_map]
    exact Option.map_congr fun ant _ => hf ant
  · rfl

/-- An instruction moves its ant and settles who dies of the move, or it changes no station. -/
theorem Effect.station_cases {instruction : Instruction}
    (h : Effect game id ant instruction game') :
    (∃ dest, game.openAhead? ant = some dest ∧
        game' = (game.relocate id ant dest).resolveCombat id) ∨
      ∀ other, game'.station? other = game.station? other := by
  cases h with
  | nothing | draw => exact .inr fun _ => rfl
  | placeMark | clearMark => exact .inr fun _ => station?_recordAt ..
  | takeFood | layFood =>
    exact .inr fun _ => (station?_recordAt ..).trans (station?_modifyAnt _ _ fun _ => rfl)
  | turn => exact .inr fun _ => station?_modifyAnt _ _ fun _ => rfl
  | @move dest _ _ hopen => exact .inl ⟨dest, hopen, rfl⟩

/-- A step moves its ant and settles who dies of the move, or it changes no station. In the first
case the ant notes its next state last, which changes no station either. -/
theorem Step.station_cases (h : Step game id game') :
    (∃ ant dest, game.ant? id = some ant ∧ ant.alive = true ∧ game.openAhead? ant = some dest ∧
        ∀ other, game'.station? other =
          ((game.relocate id ant dest).resolveCombat id).station? other) ∨
      ∀ other, game'.station? other = game.station? other := by
  cases h with
  | idle => exact .inr fun _ => rfl
  | rest => exact .inr fun _ => station?_modifyAnt _ _ fun _ => rfl
  | @act ant _ after state hant halive _ heffect =>
    have hnote (other : Nat) :
        (after.modifyAnt id ({ · with state })).station? other = after.station? other :=
      station?_modifyAnt _ _ fun _ => rfl
    rcases heffect.station_cases with ⟨dest, hopen, rfl⟩ | hstays
    · exact .inl ⟨ant, dest, hant, halive, hopen, hnote⟩
    · exact .inr fun other => (hnote other).trans (hstays other)

/-- An elementary change moves an ant to the open cell ahead, kills it, or leaves its station as it
is. -/
theorem Change.station_cases (h : Change game game') (other : Nat) :
    game'.station? other = game.station? other ∨
      (∃ ant dest, game.ant? other = some ant ∧ game.openAhead? ant = some dest ∧
        game'.station? other = some (ant.color, dest, ant.alive)) ∨
      ∃ ant, game.ant? other = some ant ∧ game.isSurrounded other = true ∧
        game'.station? other = some (ant.color, ant.pos, false) := by
  cases h with
  | enter | rest | turn => exact .inl (station?_modifyAnt _ _ fun _ => rfl)
  | draw => exact .inl rfl
  | placeMark | clearMark => exact .inl (station?_recordAt ..)
  | takeFood | layFood =>
    exact .inl ((station?_recordAt ..).trans (station?_modifyAnt _ _ fun _ => rfl))
  | @relocate id dest ant hant _ hopen =>
    by_cases hother : id = other
    · subst hother
      refine .inr (.inl ⟨ant, dest, hant, hopen, ?_⟩)
      rw [station?, ant?_relocate, if_pos rfl, hant]
      rfl
    · exact .inl (by rw [station?, ant?_relocate, if_neg hother, station?])
  | @kill id hsurrounded =>
    obtain ⟨ant, hant, -⟩ := isSurrounded_eq_true_iff.1 hsurrounded
    by_cases hother : id = other
    · subst hother
      refine .inr (.inr ⟨ant, hant, hsurrounded, ?_⟩)
      rw [station?, ant?_kill hant, if_pos rfl, hant]
      rfl
    · exact .inl (by rw [station?, ant?_kill hant, if_neg hother, station?])

/-- After an elementary change an ant is of its colony, and on its cell unless that was the open
cell ahead of it; and if it lived, it lives unless it was surrounded. -/
theorem Change.ant_cases {ant' : Ant} (h : Change game game') (hant' : game'.ant? id = some ant') :
    ∃ ant, game.ant? id = some ant ∧ ant'.color = ant.color ∧
      (ant'.pos = ant.pos ∨ game.openAhead? ant = some ant'.pos) ∧
      (ant'.alive = ant.alive ∨ game.isSurrounded id = true) := by
  have hstation : game'.station? id = some (ant'.color, ant'.pos, ant'.alive) := by
    rw [station?, hant']
    rfl
  rcases h.station_cases id with hsame | ⟨ant, dest, hant, hopen, hmoved⟩ |
    ⟨ant, hant, hsurrounded, hdied⟩
  · rw [hsame, station?] at hstation
    obtain ⟨ant, hant, hown⟩ := Option.map_eq_some_iff.1 hstation
    simp only [Ant.station, Prod.mk.injEq] at hown
    obtain ⟨hcolor, hpos, halive⟩ := hown
    exact ⟨ant, hant, hcolor.symm, .inl hpos.symm, .inl halive.symm⟩
  · rw [hmoved, Option.some.injEq, Prod.mk.injEq, Prod.mk.injEq] at hstation
    obtain ⟨hcolor, rfl, halive⟩ := hstation
    exact ⟨ant, hant, hcolor.symm, .inr hopen, .inl halive.symm⟩
  · rw [hdied, Option.some.injEq, Prod.mk.injEq, Prod.mk.injEq] at hstation
    obtain ⟨hcolor, hpos, -⟩ := hstation
    exact ⟨ant, hant, hcolor.symm, .inl hpos.symm, .inr hsurrounded⟩

end Game

end Formicary
