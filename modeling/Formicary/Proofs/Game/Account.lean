import Formicary.Proofs.Board.Replay
import Formicary.Proofs.Game.Combat

/-!
# Accounts

`Game.Account` says in detail what it means that a list of events tells all that happens between
two states of a game: the food and markers of all cells can be kept track of, every event about
food is news, and every death is reported once, right after the event about the food that it left.

Accounts can be put one after the other (`Account.trans`). An account without events tells of
changes that nobody who looks at food, markers and deaths would notice (`SameLives.account`), and
there are accounts of one event (`SameLives.account_singleton`) and of one death
(`account_of_death`). `Events.lean` makes up the account of a run from these.
-/

namespace Formicary

/-- The number of the ant whose death an event reports. -/
def Event.victim? : Event → Option Nat
  | .antKilled id .. => some id
  | _ => none

/-- The numbers of the ants whose deaths are reported, in the order of the reports. -/
def victims (events : List Event) : List Nat := events.filterMap Event.victim?

/-- Who is reported dead is among the dead reported. -/
theorem mem_victims_of_split (before after : List Event) (id row col : Nat) (color : Color) :
    id ∈ victims (before ++ .antKilled id color row col :: after) := by
  simp [victims, Event.victim?]

/-- Where an element of two joined lists is found. -/
theorem split_append {α : Type} {l l' before after : List α} {a : α}
    (h : l ++ l' = before ++ a :: after) :
    (∃ rest, l = before ++ a :: rest) ∨
      ∃ middle, before = l ++ middle ∧ l' = middle ++ a :: after := by
  rcases List.append_eq_append_iff.1 h with ⟨middle, hbefore, hl'⟩ | ⟨rest, hl, hrest⟩
  · exact .inr ⟨middle, hbefore, hl'⟩
  · cases rest with
    | nil => exact .inr ⟨[], by rw [hl, List.append_nil, List.append_nil], hrest.symm⟩
    | cons b rest =>
      obtain ⟨rfl, -⟩ := List.cons.inj hrest
      exact .inl ⟨rest, hl⟩

/-- Where an element of a pair is found. -/
theorem split_pair {α : Type} {a b c : α} {before after : List α}
    (h : [a, b] = before ++ c :: after) : before = [] ∧ c = a ∨ before = [a] ∧ c = b := by
  cases before with
  | nil => exact .inl ⟨rfl, (List.cons.inj h).1.symm⟩
  | cons first before =>
    obtain ⟨rfl, htail⟩ := List.cons.inj h
    cases before with
    | nil => exact .inr ⟨rfl, (List.cons.inj htail).1.symm⟩
    | cons second before => simp at htail

namespace Recorder

/-- The recorder after a number of events. -/
def recordAll (recorder : Recorder) (events : List Event) : Recorder := events.foldl record recorder

/-- A recorder that is switched on keeps all events, in their order. -/
theorem recordAll_eq {recorder : Recorder} (hactive : recorder.active = true)
    (events : List Event) :
    recorder.recordAll events = { recorder with log := recorder.log ++ events.toArray } := by
  induction events generalizing recorder with
  | nil => simp [recordAll]
  | cons event events ih =>
    have hrecord : recorder.record event = { recorder with log := recorder.log.push event } := by
      rw [record, if_pos hactive]
    have hlog : recorder.log.push event ++ events.toArray =
        recorder.log ++ (event :: events).toArray := by simp
    rw [recordAll, List.foldl_cons, hrecord, ← hlog]
    exact ih hactive

end Recorder

namespace Game

/-- What the events between two states of a game tell. -/
structure Account (game : Game) (events : List Event) (game' : Game) : Prop where
  /-- The recorder was handed these events and no others. -/
  recorder_eq : game'.recorder = game.recorder.recordAll events
  /-- Retold by the events, the food and markers of all cells are those at the end. -/
  replay_eq : game.board.deserted.replayAll events = game'.board.deserted
  /-- Every event about food is news: just before, the cell had another amount. -/
  food_ne : ∀ {before after : List Event} {row col : Nat} {food : UInt32},
    events = before ++ .foodChanged row col food :: after →
      ∃ cell, (game.board.deserted.replayAll before).cellAt? row col = some cell ∧
        cell.food ≠ food
  /-- Every report of a death comes right after the event that the food on the cell has grown by
  what a dead ant leaves and what this one carried. -/
  deposit : ∀ {before after : List Event} {id row col : Nat} {color : Color},
    events = before ++ .antKilled id color row col :: after →
      ∃ earlier cell food carried, before = earlier ++ [.foodChanged row col food] ∧
        (game.board.deserted.replayAll earlier).cellAt? row col = some cell ∧ carried ≤ 1 ∧
          food.toNat = cell.food.toNat + (deathFood + carried)
  /-- A report of a death tells the colony of the ant and its last cell. -/
  obituary : ∀ {before after : List Event} {id row col : Nat} {color : Color},
    events = before ++ .antKilled id color row col :: after →
      ∃ ant, game'.ant? id = some ant ∧ ant.alive = false ∧ ant.color = color ∧
        game.board.index? ⟨row, col⟩ = some ant.pos
  /-- No death is reported twice. -/
  victims_nodup : (victims events).Nodup
  /-- The deaths reported are those of the ants that lived and do not live any more. -/
  mem_victims_iff : ∀ {id : Nat}, id ∈ victims events ↔ game.Alive id ∧ ¬game'.Alive id
  /-- No ant comes to life. -/
  alive_of_alive : ∀ {id : Nat}, game'.Alive id → game.Alive id
  /-- A dead ant stays dead, and stays on its last cell. -/
  at_rest : ∀ {id : Nat} {ant : Ant}, game.ant? id = some ant → ant.alive = false →
    ∃ ant', game'.ant? id = some ant' ∧ ant'.alive = false ∧ ant'.color = ant.color ∧
      ant'.pos = ant.pos

variable {game mid game' : Game} {events events' : List Event} {id i : Nat} {ant : Ant}
  {cell : Cell}

/-! ### Putting accounts together -/

/-- A game keeps its frame. -/
theorem Account.toFrame_eq (h : Account game events game') :
    game'.board.toFrame = game.board.toFrame := by
  have hframe := congrArg Board.toFrame h.replay_eq
  rw [Board.toFrame_replayAll] at hframe
  exact hframe.symm

/-- After one account comes another one. -/
theorem Account.trans (h : Account game events mid) (h' : Account mid events' game') :
    Account game (events ++ events') game' where
  recorder_eq := by
    rw [h'.recorder_eq, h.recorder_eq, Recorder.recordAll, Recorder.recordAll, Recorder.recordAll,
      List.foldl_append]
  replay_eq := by rw [Board.replayAll_append, h.replay_eq, h'.replay_eq]
  food_ne hsplit := by
    -- The event is one of the first account or of the second. The board that the second begins
    -- with is the first one retold.
    rcases split_append hsplit with ⟨rest, hfirst⟩ | ⟨middle, rfl, hsecond⟩
    · exact h.food_ne hfirst
    · rw [Board.replayAll_append, h.replay_eq]
      exact h'.food_ne hsecond
  deposit hsplit := by
    rcases split_append hsplit with ⟨rest, hfirst⟩ | ⟨middle, rfl, hsecond⟩
    · exact h.deposit hfirst
    · obtain ⟨earlier, cell, food, carried, rfl, hcell, hcarried, hfood⟩ := h'.deposit hsecond
      refine ⟨events ++ earlier, cell, food, carried, (List.append_assoc ..).symm, ?_, hcarried,
        hfood⟩
      rw [Board.replayAll_append, h.replay_eq]
      exact hcell
  obituary hsplit := by
    rcases split_append hsplit with ⟨rest, hfirst⟩ | ⟨middle, rfl, hsecond⟩
    · -- Who died before the first account ended is still there at the end of the second.
      obtain ⟨ant, hant, hdead, hcolor, hindex⟩ := h.obituary hfirst
      obtain ⟨ant', hant', hdead', hcolor', hpos⟩ := h'.at_rest hant hdead
      exact ⟨ant', hant', hdead', hcolor'.trans hcolor, by rw [hpos, hindex]⟩
    · rw [← h.toFrame_eq]
      exact h'.obituary hsecond
  victims_nodup := by
    rw [victims, List.filterMap_append]
    refine h.victims_nodup.append h'.victims_nodup fun id hfirst hsecond => ?_
    exact (h.mem_victims_iff.1 hfirst).2 (h'.mem_victims_iff.1 hsecond).1
  mem_victims_iff {id} := by
    rw [victims, List.filterMap_append, List.mem_append, ← victims, ← victims, h.mem_victims_iff,
      h'.mem_victims_iff]
    constructor
    · rintro (⟨hlives, hdies⟩ | ⟨hlives, hdies⟩)
      · exact ⟨hlives, fun hlater => hdies (h'.alive_of_alive hlater)⟩
      · exact ⟨h.alive_of_alive hlives, hdies⟩
    · -- Who lives at first and not at last dies on one side of the middle, and on one side only.
      rintro ⟨hlives, hdies⟩
      by_cases hmid : mid.Alive id
      · exact .inr ⟨hmid, hdies⟩
      · exact .inl ⟨hlives, hmid⟩
  alive_of_alive hlives := h.alive_of_alive (h'.alive_of_alive hlives)
  at_rest hant hdead := by
    obtain ⟨ant', hant', hdead', hcolor, hpos⟩ := h.at_rest hant hdead
    obtain ⟨ant'', hant'', hdead'', hcolor', hpos'⟩ := h'.at_rest hant' hdead'
    exact ⟨ant'', hant'', hdead'', hcolor'.trans hcolor, hpos'.trans hpos⟩

/-! ### Accounts without deaths -/

/-- The same ants live, and the dead ones are still where they were. -/
structure SameLives (game game' : Game) : Prop where
  /-- Nobody dies or comes to life. -/
  alive_iff : ∀ {id : Nat}, game'.Alive id ↔ game.Alive id
  /-- The dead stay where they are. -/
  at_rest : ∀ {id : Nat} {ant : Ant}, game.ant? id = some ant → ant.alive = false →
    ∃ ant', game'.ant? id = some ant' ∧ ant'.alive = false ∧ ant'.color = ant.color ∧
      ant'.pos = ant.pos

theorem SameLives.of_ants_eq (h : game'.ants = game.ants) : SameLives game game' := by
  have hant? (id : Nat) : game'.ant? id = game.ant? id := by rw [ant?, h, ant?]
  refine ⟨fun {id} => ?_, fun {id ant} hant hdead => ⟨ant, ?_, hdead, rfl, rfl⟩⟩
  · rw [Alive, hant?, Alive]
  · rw [hant?, hant]

/-- A change of an ant that neither kills it nor moves it when it is dead. -/
theorem SameLives.of_modify (f : Ant → Ant) (hants : game'.ants = game.ants.modify id f)
    (hf : ∀ ant, game.ant? id = some ant → (f ant).alive = ant.alive ∧ (f ant).color = ant.color ∧
      (ant.alive = false → (f ant).pos = ant.pos)) :
    SameLives game game' := by
  have hant? (other : Nat) : game'.ant? other =
      if id = other then (game.ant? other).map f else game.ant? other := by
    rw [ant?, hants, Array.getElem?_modify, ant?]
  refine ⟨fun {other} => ?_, fun {other ant} hant hdead => ?_⟩
  -- Who lives before and after, and where the dead lie: the changed ant apart, all are as before.
  · rw [Alive, Alive, hant?]
    split
    next hid =>
      subst hid
      constructor
      · rintro ⟨ant', hant', hlives⟩
        obtain ⟨ant, hant, rfl⟩ := Option.map_eq_some_iff.1 hant'
        exact ⟨ant, hant, (hf ant hant).1.symm.trans hlives⟩
      · rintro ⟨ant, hant, hlives⟩
        exact ⟨f ant, by rw [hant, Option.map_some], (hf ant hant).1.trans hlives⟩
    next => rfl
  · rw [hant?]
    split
    next hid =>
      subst hid
      obtain ⟨halive, hcolor, hpos⟩ := hf ant hant
      exact ⟨f ant, by rw [hant, Option.map_some], halive.trans hdead, hcolor, hpos hdead⟩
    next => exact ⟨ant, hant, hdead, rfl, rfl⟩

/-- Where nothing happens but that ants do something else, there is nothing to tell. -/
theorem SameLives.account (hlives : SameLives game game')
    (hrecorder : game'.recorder = game.recorder)
    (hboard : game'.board.deserted = game.board.deserted) : Account game [] game' where
  recorder_eq := hrecorder
  replay_eq := hboard.symm
  food_ne hsplit := by simp at hsplit
  deposit hsplit := by simp at hsplit
  obituary hsplit := by simp at hsplit
  victims_nodup := .nil
  mem_victims_iff := by simp [victims, hlives.alive_iff]
  alive_of_alive := hlives.alive_iff.1
  at_rest := hlives.at_rest

/-- Where nothing changes, there is nothing to tell. -/
theorem Account.refl (game : Game) : Account game [] game :=
  (SameLives.of_ants_eq rfl).account rfl rfl

/-- Where nobody dies, a single event can tell what happens. -/
theorem SameLives.account_singleton {event : Event} (hlives : SameLives game game')
    (hrecorder : game'.recorder = game.recorder.record event)
    (hboard : game'.board.deserted = game.board.deserted.replay event)
    (hvictim : event.victim? = none)
    (hfood : ∀ row col food, event = .foodChanged row col food →
      ∃ cell, game.board.deserted.cellAt? row col = some cell ∧ cell.food ≠ food) :
    Account game [event] game' where
  recorder_eq := hrecorder
  replay_eq := hboard.symm
  food_ne {before _ row col food} hsplit := by
    cases before with
    | nil => exact hfood row col food (List.cons.inj hsplit).1
    | cons first before => simp at hsplit
  deposit {before after id row col color} hsplit := by
    have hmem := mem_victims_of_split before after id row col color
    simp [← hsplit, victims, hvictim] at hmem
  obituary {before after id row col color} hsplit := by
    have hmem := mem_victims_of_split before after id row col color
    simp [← hsplit, victims, hvictim] at hmem
  victims_nodup := by simp [victims, hvictim]
  mem_victims_iff := by simp [victims, hvictim, hlives.alive_iff]
  alive_of_alive := hlives.alive_iff.1
  at_rest := hlives.at_rest

/-- One death is told by two events, the first about the food that was left. -/
theorem account_of_death {row col carried : Nat} {color : Color} {food : UInt32} {dead : Ant}
    (hfound : game.board.deserted.cellAt? row col = some cell) (hcarried : carried ≤ 1)
    (hgrown : food.toNat = cell.food.toNat + (deathFood + carried)) (hlived : game.Alive id)
    (hrecorder : game'.recorder =
      game.recorder.recordAll [.foodChanged row col food, .antKilled id color row col])
    (hboard : game'.board.deserted = game.board.deserted.modifyAt row col (·.setFood food))
    (hdead : game'.ant? id = some dead) (hdies : dead.alive = false) (hcolor : dead.color = color)
    (hindex : game.board.index? ⟨row, col⟩ = some dead.pos)
    (hothers : ∀ other, other ≠ id → game'.ant? other = game.ant? other) :
    Account game [.foodChanged row col food, .antKilled id color row col] game' := by
  have hnot : ¬game'.Alive id := by
    rintro ⟨ant, hant, hlives⟩
    obtain rfl := Option.some.inj (hdead.symm.trans hant)
    simp [hdies] at hlives
  have halive {other : Nat} (hne : other ≠ id) : game'.Alive other ↔ game.Alive other := by
    rw [Alive, hothers other hne, Alive]
  exact {
    recorder_eq := hrecorder
    replay_eq := hboard.symm
    food_ne := by
      intro before after row' col' food' hsplit
      rcases split_pair hsplit with ⟨rfl, heq⟩ | ⟨-, heq⟩
      · obtain ⟨rfl, rfl, rfl⟩ := Event.foodChanged.inj heq
        -- What a dead ant leaves is some food, so the cell has more of it than before.
        have hleft : 0 < deathFood := by decide
        refine ⟨cell, hfound, ?_⟩
        rintro rfl
        omega
      · cases heq
    deposit := by
      intro before after id' row' col' color' hsplit
      rcases split_pair hsplit with ⟨-, heq⟩ | ⟨rfl, heq⟩
      · cases heq
      · obtain ⟨rfl, rfl, rfl, rfl⟩ := Event.antKilled.inj heq
        exact ⟨[], cell, food, carried, rfl, hfound, hcarried, hgrown⟩
    obituary := by
      intro before after id' row' col' color' hsplit
      rcases split_pair hsplit with ⟨-, heq⟩ | ⟨-, heq⟩
      · cases heq
      · obtain ⟨rfl, rfl, rfl, rfl⟩ := Event.antKilled.inj heq
        exact ⟨dead, hdead, hdies, hcolor, hindex⟩
    victims_nodup := List.nodup_singleton id
    mem_victims_iff := by
      intro other
      have hvictims : victims [.foodChanged row col food, .antKilled id color row col] = [id] := rfl
      rw [hvictims, List.mem_singleton]
      by_cases hid : other = id
      · subst hid
        exact iff_of_true rfl ⟨hlived, hnot⟩
      · rw [halive hid]
        exact iff_of_false hid fun hboth => hboth.2 hboth.1
    alive_of_alive := by
      intro other hlives
      by_cases hid : other = id
      · exact hid ▸ hlived
      · exact (halive hid).1 hlives
    at_rest := by
      intro other ant hant hdead'
      have hne : other ≠ id := by
        rintro rfl
        obtain ⟨ant', hant', hlives⟩ := hlived
        obtain rfl := Option.some.inj (hant.symm.trans hant')
        simp [hdead'] at hlives
      exact ⟨ant, (hothers other hne).trans hant, hdead', rfl, rfl⟩ }

end Game

end Formicary
