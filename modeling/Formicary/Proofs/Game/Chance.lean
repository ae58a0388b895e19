import Formicary.Game.Score
import Formicary.Proofs.Game.Renaming
import Formicary.Proofs.Game.Start
import Formicary.Proofs.Rng

/-!
# Chance

A game is left to chance in its flips only. An ant draws from the generator if it lives, is awake,
and is at a flip whose bound is not zero (`Game.drawBound?`); no other step touches the generator
(`Game.rng_stepAnt`). So the generator after a run is what the draws of the run make of it, one
after the other in the order of the steps (`Game.rng_run`).

Nor does anything but a flip look at what is drawn. If all brains are `Brain.Tame`, so that nothing
depends on the draws, then the seed makes no difference (`run_reseed`).
-/

namespace Formicary

/-- If the instruction draws at all, nothing depends on the draw. -/
def Instruction.Tame : Instruction → Prop
  | .flip bound onZero otherwise => bound ≤ 1 ∨ onZero = otherwise
  | _ => True

/-- No instruction of the brain depends on a draw. -/
def Brain.Tame (brain : Brain) : Prop := ∀ instruction ∈ brain.instructions, instruction.Tame

namespace Brain.Tame

variable {brain : Brain} {state : Nat} {bound : UInt32} {onZero otherwise : Nat}

/-- Whatever is drawn, a flip of a tame brain goes on to the same state. A draw below one is zero
from any generator, and otherwise both targets are the same. -/
theorem draw_eq (h : brain.Tame) (hget : brain.get? state = some (.flip bound onZero otherwise))
    (rng rng' : Rng) :
    (if (rng'.below bound).1 = 0 then onZero else otherwise) =
      if (rng.below bound).1 = 0 then onZero else otherwise := by
  rcases h _ (Array.mem_of_getElem? hget) with hbound | rfl
  · rw [Rng.below_eq_zero _ hbound, Rng.below_eq_zero _ hbound]
  · rw [ite_self, ite_self]

end Brain.Tame

/-- The bound below which an instruction draws, if it draws: a flip below zero does not. -/
def Instruction.drawBound? : Instruction → Option UInt32
  | .flip bound _ _ => if bound = 0 then none else some bound
  | _ => none

/-- The generator after a draw below a bound. -/
def Rng.skip (rng : Rng) (bound : UInt32) : Rng := (rng.below bound).2

namespace Game

variable {game game' : Game} {id : Nat}

/-! ### Who draws -/

/-- The bound below which an ant draws if it is the next to step: it lives, is awake, and is at an
instruction that draws. -/
def drawBound? (game : Game) (id : Nat) : Option UInt32 := do
  let ant ← game.ant? id
  if ant.alive && !ant.isResting then (← game.instruction? id).drawBound? else none

/-- The steps of some ants, one after the other: who steps, and in which state of the game. -/
def turnsOf (game : Game) : List Nat → List (Game × Nat)
  | [] => []
  | id :: ids => (game, id) :: (game.stepAnt id).turnsOf ids

/-- The steps of a number of ticks. -/
def turns : Nat → Game → List (Game × Nat)
  | 0, _ => []
  | n + 1, game => game.turnsOf (List.range game.ants.size) ++ turns n game.tick

/-- The bounds of the draws that are made in some steps. -/
def drawBounds (turns : List (Game × Nat)) : List UInt32 :=
  turns.filterMap fun turn => turn.1.drawBound? turn.2

@[simp]
theorem rng_modifyAnt (game : Game) (id : Nat) (f : Ant → Ant) :
    (game.modifyAnt id f).rng = game.rng := rfl

@[simp]
theorem rng_modifyCell (game : Game) (i : Nat) (f : Cell → Cell) :
    (game.modifyCell i f).rng = game.rng := rfl

@[simp]
theorem rng_recordAt (game : Game) (i : Nat) (event : Cell → Event) :
    (game.recordAt i event).rng = game.rng := by
  obtain ⟨recorder, h⟩ := recordAt_eq game i event
  rw [h]

theorem rng_kill (game : Game) (id : Nat) : (game.kill id).rng = game.rng := by
  rw [kill]
  split
  · rfl
  · rw [rng_recordAt, rng_recordAt, rng_modifyAnt, rng_modifyCell]

/-- Nobody draws to find out who dies. -/
theorem rng_settle (game : Game) (ids : List Nat) : (game.settle ids).rng = game.rng :=
  settle_keep (P := fun after => after.rng = game.rng) (fun _ ih => (rng_kill ..).trans ih) rfl ids

/-- An instruction leaves the generator as it is, unless it draws. -/
theorem rng_execute (game : Game) (id : Nat) (ant : Ant) (instruction : Instruction) :
    (game.execute id ant instruction).2.rng =
      instruction.drawBound?.elim game.rng game.rng.skip := by
  cases instruction with
  | sense | turn => rfl
  | mark | unmark => exact rng_recordAt ..
  | pickUp onSuccess onFail =>
    rw [execute]
    split
    · exact rng_recordAt ..
    · rfl
  | drop next =>
    rw [execute]
    split
    · exact rng_recordAt ..
    · rfl
  | move onSuccess onFail =>
    rw [execute]
    split
    · exact rng_settle ..
    · rfl
  | flip bound onZero otherwise =>
    rw [Instruction.drawBound?]
    split
    next hzero =>
      -- A draw below zero takes nothing from the generator.
      rw [hzero]
      rfl
    next => rfl

/-- A step leaves the generator as it is, unless the ant draws. -/
theorem rng_stepAnt (game : Game) (id : Nat) :
    (game.stepAnt id).rng = (game.drawBound? id).elim game.rng game.rng.skip := by
  rw [stepAnt, drawBound?, instruction?]
  cases hant : game.ant? id with
  | none => rfl
  | some ant =>
    simp only [Option.bind_eq_bind, Option.bind_some]
    cases halive : ant.alive with
    | false => rfl
    | true =>
      cases hresting : ant.isResting with
      | true => rfl
      | false =>
        rw [act]
        cases hget : (game.brain ant.color).get? ant.state with
        | none => rfl
        | some instruction => exact rng_execute game id ant instruction

/-- The generator after some steps is what the draws made in them leave of it. -/
theorem rng_foldl_stepAnt (game : Game) (ids : List Nat) :
    (ids.foldl stepAnt game).rng = (drawBounds (game.turnsOf ids)).foldl Rng.skip game.rng := by
  induction ids generalizing game with
  | nil => rfl
  | cons id ids ih =>
    rw [List.foldl_cons, ih, rng_stepAnt, turnsOf, drawBounds, drawBounds, List.filterMap_cons]
    cases game.drawBound? id <;> rfl

/-- The generator after a run is what the draws made in the run leave of it. -/
theorem rng_run (game : Game) (n : Nat) :
    (game.run n).rng = (drawBounds (game.turns n)).foldl Rng.skip game.rng := by
  induction n generalizing game with
  | zero => rfl
  | succ n ih =>
    have htick : game.tick.rng =
        (drawBounds (game.turnsOf (List.range game.ants.size))).foldl Rng.skip game.rng :=
      rng_foldl_stepAnt game _
    rw [run, ih, htick, ← List.foldl_append, turns, drawBounds, drawBounds, drawBounds,
      List.filterMap_append]

/-! ### What is drawn does not matter -/

/-- The game with another generator. -/
def reseed (game : Game) (rng : Rng) : Game := { game with rng }

/-- Two games are compared in everything but their generators. -/
def heedless : Comparison where
  toTransfer := .same
  Aside _ recorder _ recorder' := recorder' = recorder

/-- Games that are the same but for their generators stay so if the brains are tame. -/
theorem lasting_heedless :
    heedless.Lasting fun game game' =>
      (∀ color, game'.brain color = game.brain color) ∧ ∀ color, (game.brain color).Tame where
  left h hchange := by rwa [hchange.brain]
  right h hchange := by rwa [hchange.brain]
  place_injOn := Set.injOn_id _
  pos_mem _ _ _ _ := Set.mem_univ _
  occupant_mem _ _ _ _ := Set.mem_univ _
  brain_eq h _ _ := h.1 _
  neighbor _ halike _ _ _ d :=
    halike.meets (fun _ => rfl) (fun _ _ _ => rfl) (Set.mem_univ _) fun _ _ => Set.mem_univ _
  record haside event := by
    obtain rfl := haside
    exact congrArg _ (Transfer.event_same event)
  draw {game game' id bound onZero otherwise} h halike _ hinstruction := by
    obtain ⟨ant, -, hget⟩ := Option.bind_eq_some_iff.1 hinstruction
    exact ⟨halike.aside, (h.2 ant.color).draw_eq hget ..⟩

/-- A game with another generator is the same in everything else. -/
theorem same_reseed (game : Game) (rng : Rng) : heedless.Same game (game.reseed rng) := by
  have hcell : heedless.cell = id := funext Transfer.cell_same
  have hant : heedless.ant = id := rfl
  refine ⟨⟨fun _ => ?_, fun _ => ?_, rfl⟩, rfl, fun _ => rfl, rfl⟩
  · rw [hant, Option.map_id]
    rfl
  · rw [hcell, Option.map_id]
    rfl

/-- Where the brains are tame, the generator with which a game goes on makes no difference. -/
theorem run_reseed (htame : ∀ color, (game.brain color).Tame) (rng : Rng) (n : Nat) :
    (game.reseed rng).run n = (game.run n).reseed ((game.reseed rng).run n).rng := by
  have hbrain : ∀ color, (game.reseed rng).brain color = game.brain color := fun _ => rfl
  have hrun := lasting_heedless.same_run (fun id => Set.mem_univ id) (fun h => h)
    ⟨hbrain, htame⟩ (game.same_reseed rng) n
  have heq := hrun.eq_of_same rfl (fun i => Set.mem_univ i) fun id => Set.mem_univ id
  have hrecorder : ((game.reseed rng).run n).recorder = (game.run n).recorder := hrun.alike.aside
  rwa [hrecorder] at heq

/-- A game is left to chance in its flips only. If nothing in either brain depends on a draw, then
games from any two generators are the same in everything but the generator: after every number of
ticks they have the same board, ants, score and events, whatever recorder was put in after some of
the ticks. And in every game, the generator is drawn from by living ants that are awake and at a
flip below a bound other than zero, in the order of their steps, and by nothing else. -/
theorem chance_in_flips_only :
    (∀ (world : WorldMap) (redBrain blackBrain : Brain), redBrain.Tame → blackBrain.Tame →
      ∀ (recorder : Recorder) (m n : Nat) (rng rng' : Rng),
        let game (rng : Rng) :=
          (((start redBrain blackBrain (.ofMap world) rng).run m).observe recorder).run n
        game rng' = (game rng).reseed (game rng').rng ∧ (game rng').score = (game rng).score) ∧
      ∀ (game : Game) (n : Nat),
        (game.run n).rng = (drawBounds (game.turns n)).foldl Rng.skip game.rng := by
  refine ⟨fun world redBrain blackBrain hred hblack recorder m n rng rng' => ?_, rng_run⟩
  intro game
  let first := start redBrain blackBrain (.ofMap world) rng
  have hfirst : ∀ color, (first.brain color).Tame := by
    rintro (_ | _)
    · exact hred
    · exact hblack
  have hlater : ∀ color, (((first.run m).observe recorder).brain color).Tame := by
    intro color
    have hreach : Reachable first (first.run m) := .run m .refl
    exact hreach.brain ▸ hfirst color
  -- The recorder is put into two games that differ in the generator only.
  have hobserved : ((start redBrain blackBrain (.ofMap world) rng').run m).observe recorder =
      ((first.run m).observe recorder).reseed ((first.reseed rng').run m).rng :=
    congrArg (observe · recorder) (run_reseed hfirst rng' m)
  have hgame : game rng' = (game rng).reseed (game rng').rng := by
    change ((((start redBrain blackBrain (.ofMap world) rng').run m).observe recorder).run n) = _
    have h := run_reseed hlater ((first.reseed rng').run m).rng n
    rw [← hobserved] at h
    exact h
  exact ⟨hgame, by rw [hgame]; rfl⟩

/-- A red brain that draws at every turn and never lets the draw decide, though it flips below zero,
below one and below seven. -/
def idleFlips : Brain := ⟨#[.flip 1 1 0, .flip 0 2 0, .move 3 3, .flip 7 0 0]⟩

/-- Flips of all three kinds in the siege, from two seeds: the generators part, the games do not. In
the first two ticks each of the five red ants draws once, below one, and then goes on without. -/
theorem chance_in_flips_only_siege :
    let first (seed : UInt64) :=
      start idleFlips ⟨#[.turn .left 0]⟩ (.ofMap siegeWorld) (.ofSeed seed)
    let game (seed : UInt64) := (((first seed).run 1).observe { active := true }).run 30
    idleFlips.Tame ∧ (game 2).rng ≠ (game 1).rng ∧
      game 2 = (game 1).reseed (game 2).rng ∧ (game 2).score = (game 1).score ∧
      drawBounds ((first 1).turns 2) = [1, 1, 1, 1, 1] ∧
      ((first 1).run 2).rng = [1, 1, 1, 1, 1].foldl Rng.skip (.ofSeed 1) := by
  intro first game
  have hred : idleFlips.Tame := by
    intro instruction hmem
    simp only [idleFlips, List.mem_toArray, List.mem_cons, List.not_mem_nil, or_false] at hmem
    rcases hmem with rfl | rfl | rfl | rfl <;> simp [Instruction.Tame]
  have hblack : Brain.Tame ⟨#[.turn .left 0]⟩ := by
    intro instruction hmem
    simp only [List.mem_toArray, List.mem_singleton] at hmem
    rw [hmem]
    trivial
  have hmain := chance_in_flips_only.1 siegeWorld idleFlips ⟨#[.turn .left 0]⟩ hred hblack
    { active := true } 1 30 (.ofSeed 1) (.ofSeed 2)
  have hbounds : drawBounds ((first 1).turns 2) = [1, 1, 1, 1, 1] := by decide +kernel
  have hdrawn := chance_in_flips_only.2 (first 1) 2
  rw [hbounds] at hdrawn
  exact ⟨hred, by decide +kernel, hmain.1, hmain.2, hbounds, hdrawn⟩

end Game

end Formicary
