/-!
# Faults in a brain's source

Lines are counted from one, and the first fault found is the one reported.
-/

namespace Formicary

/-- Why a brain's source is refused. -/
inductive CompileError where
  /-- A line is no instruction; `text` is the line without comment, in small letters. -/
  | malformedInstruction (line : Nat) (text : String)
  /-- There is no instruction at all. -/
  | emptyBrain
  /-- The instruction on this line is one more than a brain may have. -/
  | tooManyStates (line limit : Nat)
  /-- An instruction leads to a state that the brain does not have. -/
  | stateOutOfRange (line referenced : Nat)
  /-- An instruction names a marker that does not exist. -/
  | markerOutOfRange (line marker : Nat)
  deriving DecidableEq

/-- The fault in words. -/
def CompileError.message : CompileError → String
  | malformedInstruction line text => s!"malformed instruction '{text}' at line {line}"
  | emptyBrain => "no states given"
  | tooManyStates line limit => s!"too many states at line {line}; limit is {limit}"
  | stateOutOfRange line referenced =>
    s!"pointer to state {referenced} which doesn't exist at line {line}"
  | markerOutOfRange line marker => s!"marker id {marker} too high at line {line}"

end Formicary
