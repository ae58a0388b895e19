import Formicary.Brain.Basic
import Formicary.Brain.Error
import Formicary.Brain.Line

/-!
# Compiling brains

A brain's source is read line by line into a table of instructions, and only when all lines are
read are the targets and markers checked. Either the whole source is accepted or the first fault
is reported: a fault in the form of any line comes before a fault in what a line refers to.
-/

namespace Formicary

open Text

namespace Brain

/-- An instruction and the line of the source that it stands on. -/
structure Entry where
  /-- The line, counted from one. -/
  line : Nat
  /-- The instruction on that line. -/
  instruction : Instruction

/-- Read the given lines, the first of which has number `line`, after the entries read so far.
Lines without content are skipped and take no state. -/
def readEntries (line : Nat) (entries : Array Entry) :
    List (List Char) → Except CompileError (Array Entry)
  | [] => .ok entries
  | raw :: rest =>
    let text := cleanLine raw
    match Instruction.ofLine? text with
    | some instruction =>
      if entries.size < maxStates then
        readEntries (line + 1) (entries.push ⟨line, instruction⟩) rest
      else .error (.tooManyStates line maxStates)
    | none =>
      -- An empty line is no instruction either, but no fault.
      if text.isEmpty then readEntries (line + 1) entries rest
      else .error (.malformedInstruction line (String.ofList text))

/-- Check that an entry of a brain with `size` states leads to existing states only and names an
existing marker, if any. -/
def Entry.check (size : Nat) (entry : Entry) : Except CompileError Unit :=
  if size ≤ entry.instruction.maxTarget then
    .error (.stateOutOfRange entry.line entry.instruction.maxTarget)
  else match entry.instruction.marker? with
    | some id =>
      if markerCount ≤ id then .error (.markerOutOfRange entry.line id) else .ok ()
    | none => .ok ()

/-- Check entries in order, up to the first fault. -/
def checkEntries (size : Nat) : List Entry → Except CompileError Unit
  | [] => .ok ()
  | entry :: rest =>
    match entry.check size with
    | .ok () => checkEntries size rest
    | .error e => .error e

/-- Compile a brain's source. -/
def compile (source : String) : Except CompileError Brain := do
  let entries ← readEntries 1 #[] (lines source.toList)
  if entries.isEmpty then throw .emptyBrain
  -- An instruction may lead to a state further down, so targets can only be checked now.
  checkEntries entries.size entries.toList
  return ⟨entries.map (·.instruction)⟩

end Brain

end Formicary
