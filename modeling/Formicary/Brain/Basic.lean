import Formicary.Brain.Instruction

/-!
# Brains

A brain is a table of instructions, one for each state. A valid brain has at least one state and
not too many, leads only to its own states, and names only markers that exist; the compiler
produces valid brains only.
-/

namespace Formicary

/-- A brain: its instructions, indexed by state. -/
structure Brain where
  /-- The instruction of every state. -/
  instructions : Array Instruction
  deriving DecidableEq

namespace Brain

/-- The number of states. -/
def size (brain : Brain) : Nat := brain.instructions.size

/-- The instruction of a state, if the brain has that state. -/
def get? (brain : Brain) (state : Nat) : Option Instruction := brain.instructions[state]?

/-- What every compiled brain satisfies: it has between one and `maxStates` states, every target
is one of them, and every marker exists. -/
def Valid (brain : Brain) : Prop :=
  0 < brain.size ∧ brain.size ≤ maxStates ∧
    ∀ i ∈ brain.instructions,
      (∀ target ∈ i.targets, target < brain.size) ∧ ∀ id, i.marker? = some id → id < markerCount

instance : DecidablePred Valid := fun brain =>
  inferInstanceAs <| Decidable <| 0 < brain.size ∧ brain.size ≤ maxStates ∧
    ∀ i ∈ brain.instructions,
      (∀ target ∈ i.targets, target < brain.size) ∧ ∀ id ∈ i.marker?, id < markerCount

/-- The canonical source of a brain: one line for each state. -/
def text (brain : Brain) : String :=
  "\n".intercalate (brain.instructions.toList.map Instruction.text)

end Brain

end Formicary
