/-!
# Requests

What a command line asks for, and the ways in which it can fail to ask for anything.
-/

namespace Formicary.CommandLine

/-- A game to be played. -/
structure RunRequest where
  /-- The file of the red brain. -/
  red : String
  /-- The file of the black brain. -/
  black : String
  /-- The file of the world. -/
  world : String
  /-- The number of ticks. -/
  rounds : Nat
  /-- The seed of the generator, if one is asked for. -/
  seed : Option UInt64
  /-- Whether the world must satisfy the contest rules. -/
  contest : Bool
  /-- Whether only the score is printed. -/
  quiet : Bool

/-- What to do. -/
inductive Command where
  /-- Play a game. -/
  | run (request : RunRequest)
  /-- Generate a contest world, into a file if one is named. -/
  | generate (seed : Option UInt64) (out : Option String)
  /-- Compile a brain and report its size. -/
  | checkBrain (file : String)
  /-- Read a world and report its size. -/
  | checkWorld (file : String) (contest : Bool)

/-- A command, and whether to be talkative about it. -/
structure Request where
  /-- Whether to write a log. -/
  verbose : Bool
  /-- What to do. -/
  command : Command

/-- Why a command line is no request. -/
inductive UsageError where
  /-- The command line is empty, which shows the help. -/
  | nothingGiven
  /-- The help is asked for. -/
  | helpRequested
  /-- There are options, but no command. -/
  | missingCommand
  /-- The command does not exist. -/
  | unknownCommand
  /-- The command has no such option, or takes no further word. -/
  | unknownArgument
  /-- An option or a file name has no value, or an empty one. -/
  | emptyValue
  /-- A value is no number, or out of range. -/
  | badNumber
  /-- An option that takes no value has one. -/
  | surplusValue
  /-- An option is given twice. -/
  | repeatedArgument
  /-- An option or file that the command needs is missing. -/
  | missingArgument
  deriving DecidableEq

end Formicary.CommandLine
