import Formicary.Direction

/-!
# Brain instructions

A brain is a table of instructions indexed by state. Each instruction says what the ant does and
which state it goes to next; the states named by an instruction are its targets.
-/

namespace Formicary

/-- The number of markers that each colony can set on a cell. -/
def markerCount : Nat := 6

/-- The largest number of states that a brain may have. -/
def maxStates : Nat := 10000

/-- The cell that an ant senses, relative to where it stands and faces. -/
inductive SenseDir where
  /-- The cell under the ant. -/
  | here
  /-- The cell in front of the ant. -/
  | ahead
  /-- The cell in front of the ant after a turn to the left. -/
  | leftAhead
  /-- The cell in front of the ant after a turn to the right. -/
  | rightAhead
  deriving DecidableEq

namespace SenseDir

/-- All cells that can be sensed. -/
def all : List SenseDir := [here, ahead, leftAhead, rightAhead]

/-- The word for the sensed cell in a brain's source. -/
def name : SenseDir → String
  | here => "here"
  | ahead => "ahead"
  | leftAhead => "leftahead"
  | rightAhead => "rightahead"

/-- The sensed cell that a word stands for. -/
def ofName? (word : String) : Option SenseDir := all.find? (·.name == word)

end SenseDir

/-- What an ant looks for on the cell it senses. -/
inductive Condition where
  /-- An ant of the same colony. -/
  | friend
  /-- An ant of the other colony. -/
  | foe
  /-- An ant of the same colony that carries food. -/
  | friendWithFood
  /-- An ant of the other colony that carries food. -/
  | foeWithFood
  /-- Food lying on the cell. -/
  | food
  /-- Rock, or the end of the board. -/
  | rock
  /-- One of the markers of the ant's own colony. -/
  | marker (id : Nat)
  /-- Any marker of the other colony. -/
  | foeMarker
  /-- A cell of the ant's own hill. -/
  | home
  /-- A cell of the other colony's hill. -/
  | foeHome
  deriving DecidableEq

namespace Condition

/-- The conditions that are written as one word: all of them but `marker`. -/
def plain : List Condition :=
  [friend, foe, friendWithFood, foeWithFood, food, rock, foeMarker, home, foeHome]

/-- The words for a condition in a brain's source. -/
def words : Condition → List String
  | friend => ["friend"]
  | foe => ["foe"]
  | friendWithFood => ["friendwithfood"]
  | foeWithFood => ["foewithfood"]
  | food => ["food"]
  | rock => ["rock"]
  | marker id => ["marker", toString id]
  | foeMarker => ["foemarker"]
  | home => ["home"]
  | foeHome => ["foehome"]

/-- A condition as text. -/
def text (c : Condition) : String := " ".intercalate c.words

/-- The condition that one word stands for. -/
def ofName? (word : String) : Option Condition := plain.find? (·.words == [word])

end Condition

/-- The side to which an ant turns. -/
inductive Turn where
  /-- Anticlockwise. -/
  | left
  /-- Clockwise. -/
  | right
  deriving DecidableEq

namespace Turn

/-- Both sides. -/
def all : List Turn := [left, right]

/-- The word for a side in a brain's source. -/
def name : Turn → String
  | left => "left"
  | right => "right"

/-- The side that a word stands for. -/
def ofName? (word : String) : Option Turn := all.find? (·.name == word)

/-- The direction faced after a turn. -/
def apply : Turn → Direction → Direction
  | left, d => d.left
  | right, d => d.right

end Turn

/-- The instruction of one brain state. -/
inductive Instruction where
  /-- Go on depending on whether a condition holds on a cell. -/
  | sense (dir : SenseDir) (cond : Condition) (onTrue onFalse : Nat)
  /-- Set a marker of the ant's colony. -/
  | mark (marker next : Nat)
  /-- Clear a marker of the ant's colony. -/
  | unmark (marker next : Nat)
  /-- Take up a unit of food; this fails if there is none or the ant carries one already. -/
  | pickUp (onSuccess onFail : Nat)
  /-- Lay down the food carried, if any. -/
  | drop (next : Nat)
  /-- Turn to one side. -/
  | turn (side : Turn) (next : Nat)
  /-- Step ahead; this fails if the cell ahead is not available. -/
  | move (onSuccess onFail : Nat)
  /-- Draw a number below `bound` and go on depending on whether it is zero. -/
  | flip (bound : UInt32) (onZero otherwise : Nat)
  deriving DecidableEq

namespace Instruction

/-- The states that an instruction may lead to. -/
def targets : Instruction → List Nat
  | sense _ _ onTrue onFalse => [onTrue, onFalse]
  | mark _ next => [next]
  | unmark _ next => [next]
  | pickUp onSuccess onFail => [onSuccess, onFail]
  | drop next => [next]
  | turn _ next => [next]
  | move onSuccess onFail => [onSuccess, onFail]
  | flip _ onZero otherwise => [onZero, otherwise]

/-- The highest state that an instruction may lead to. -/
def maxTarget (i : Instruction) : Nat := i.targets.foldl max 0

/-- The marker that an instruction names, if it names one. -/
def marker? : Instruction → Option Nat
  | sense _ (.marker id) _ _ => some id
  | mark id _ => some id
  | unmark id _ => some id
  | _ => none

/-- The words of an instruction in its canonical source form. -/
def words : Instruction → List String
  | sense dir cond onTrue onFalse =>
    "sense" :: dir.name :: toString onTrue :: toString onFalse :: cond.words
  | mark marker next => ["mark", toString marker, toString next]
  | unmark marker next => ["unmark", toString marker, toString next]
  | pickUp onSuccess onFail => ["pickup", toString onSuccess, toString onFail]
  | drop next => ["drop", toString next]
  | turn side next => ["turn", side.name, toString next]
  | move onSuccess onFail => ["move", toString onSuccess, toString onFail]
  | flip bound onZero otherwise =>
    ["flip", toString bound.toNat, toString onZero, toString otherwise]

/-- The canonical source form of an instruction: small letters and single spaces. -/
def text (i : Instruction) : String := " ".intercalate i.words

end Instruction

/-- Every sensed cell is found by its name. -/
@[simp]
theorem SenseDir.ofName?_name (d : SenseDir) : SenseDir.ofName? d.name = some d := by
  cases d <;> decide

/-- Every side is found by its name. -/
@[simp]
theorem Turn.ofName?_name (t : Turn) : Turn.ofName? t.name = some t := by
  cases t <;> decide

end Formicary
