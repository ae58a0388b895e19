import Formicary.Color

/-!
# Events

Every change of markers, food and lives on the board is an event. A recorder keeps the events
that happen while it is active, in the order in which they happen; switching it on or off does
not touch what is already kept.
-/

namespace Formicary

/-- A change that happened on the board. -/
inductive Event where
  /-- An ant of a colony set a marker on a cell. -/
  | markerPlaced (row col : Nat) (color : Color) (marker : Nat)
  /-- An ant of a colony cleared a marker on a cell. -/
  | markerRemoved (row col : Nat) (color : Color) (marker : Nat)
  /-- The food on a cell changed; `food` is the new amount. -/
  | foodChanged (row col : Nat) (food : UInt32)
  /-- An ant died on a cell. -/
  | antKilled (id : Nat) (color : Color) (row col : Nat)
  deriving DecidableEq

/-- Keeps events. -/
structure Recorder where
  /-- Whether events are kept at the moment. -/
  active : Bool := false
  /-- The events kept so far, the earliest first. -/
  log : Array Event := #[]
  deriving DecidableEq

namespace Recorder

/-- Keep an event, if the recorder is active. -/
def record (recorder : Recorder) (event : Event) : Recorder :=
  if recorder.active then { recorder with log := recorder.log.push event } else recorder

/-- Switch the recorder on or off. -/
def setActive (recorder : Recorder) (active : Bool) : Recorder := { recorder with active }

/-- Forget the events kept so far. -/
def clear (recorder : Recorder) : Recorder := { recorder with log := #[] }

end Recorder

end Formicary
